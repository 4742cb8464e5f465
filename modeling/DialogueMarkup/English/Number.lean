import DialogueMarkup.Text.Numeral

/-!
Numbers in English. One to ten and first to tenth have words; every other number is its numeral,
and as an ordinal its numeral with a suffix.
-/
namespace DialogueMarkup.English

def cardinalWords : List String :=
  ["one", "two", "three", "four", "five", "six", "seven", "eight", "nine", "ten"]

def ordinalWords : List String :=
  ["first", "second", "third", "fourth", "fifth", "sixth", "seventh", "eighth", "ninth", "tenth"]

/-- The word of a number in a list that begins with the word of one. -/
def wordOf? (words : List String) (n : Int) : Option (List Char) :=
  if 1 ≤ n then words[n.toNat - 1]?.map String.toList else none

def cardinal (n : Int) : List Char := (wordOf? cardinalWords n).getD (Numeral.write n)

/-- The suffix of a numeral read as an ordinal: 11, 12 and 13 take `th` in every hundred. -/
def ordinalSuffix (n : Int) : List Char :=
  if 11 ≤ n.natAbs % 100 ∧ n.natAbs % 100 ≤ 13 then ['t', 'h']
  else match n.natAbs % 10 with
    | 1 => ['s', 't']
    | 2 => ['n', 'd']
    | 3 => ['r', 'd']
    | _ => ['t', 'h']

def ordinal (n : Int) : List Char := Numeral.write n ++ ordinalSuffix n

def ordinalInWords (n : Int) : List Char := (wordOf? ordinalWords n).getD (ordinal n)

end DialogueMarkup.English
