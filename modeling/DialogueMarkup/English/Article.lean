import DialogueMarkup.Text.Casing
import DialogueMarkup.Text.Numeral

/-!
The indefinite article. A word takes `an` when it begins with a vowel sound as it is spoken: a
numeral by its reading, a lone letter or an abbreviation by the name of its first letter, any other
word by its spelling.
-/
namespace DialogueMarkup.English
open Text

def vowelNamedLetters : List Char := "AEFHILMNORSX".toList

def yooBeginnings : List String :=
  ["unary", "uni", "ura", "ure", "uri", "uro", "usa", "use", "usi", "usu"]

def silentAitchBeginnings : List String := ["heir", "honest", "honor", "hour"]

def beginsWith (beginning : String) (s : List Char) : Bool := beginning.toList.isPrefixOf s

/-- The spoken part of a word: what stands in front of its first letter or digit is not. -/
def spokenPart (word : List Char) : List Char :=
  trim (word.dropWhile fun c => !isWordCharacter c)

/-- A numeral begins with a vowel sound when its reading begins with eight, or with eleven or
eighteen, which lead only where two digits lead the groups of three. -/
def numeralBeginsWithVowel (digits : List Char) : Bool :=
  beginsWith "8" digits ||
    ((beginsWith "11" digits || beginsWith "18" digits) && digits.length % 3 == 2)

def spellingBeginsWithVowel (word : List Char) : Bool :=
  match word with
  | [] => false
  | 'a' :: _ => true
  | 'e' :: _ => true
  | 'i' :: _ => true
  | 'o' :: _ =>
    word.takeWhile (fun c => 'a' ≤ c && c ≤ 'z') != "one".toList && !beginsWith "oui" word
  | 'u' :: _ => beginsWith "unidentif" word || !yooBeginnings.any (beginsWith · word)
  | 'y' :: c :: _ => isAlphabetic c && !"aeiou".toList.contains c
  | 'h' :: _ => silentAitchBeginnings.any (beginsWith · word)
  | _ => false

def letterBeginsWithVowel (c : Char) : Bool :=
  match upperChar c with
  | [capital] => vowelNamedLetters.contains capital
  | _ => false

def spokenBeginsWithVowel : List Char → Bool
  | [] => false
  | c :: s =>
    if isDecimal c then
      numeralBeginsWithVowel
        ((c :: s.takeWhile fun d => isDecimal d || d == ',').filter (· != ','))
    else match s with
      | [] => letterBeginsWithVowel c
      | d :: _ =>
        if isUppercase d then letterBeginsWithVowel c else spellingBeginsWithVowel (lower (c :: s))

/-- Whether a word begins with a vowel sound; a word with nothing to speak does not. -/
def beginsWithVowelSound (word : List Char) : Bool := spokenBeginsWithVowel (spokenPart word)

def blankWordRemark? (word : List Char) : Option (List Char) :=
  if (spokenPart word).isEmpty then
    some ("Cannot judge the vowel sound of a blank word: ".toList ++ quoted word)
  else none

def article (word : List Char) (capital : Bool) : List Char :=
  (if capital then 'A' else 'a') :: (if beginsWithVowelSound word then ['n'] else [])

end DialogueMarkup.English
