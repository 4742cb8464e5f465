import DialogueMarkup.Text.Digit

/-!
Values written out in the parameters of a tag: numbers, texts and octets in quotes, truth values,
rows in round brackets, sets and tables in braces. What matters of a value is where it may stand:
only numbers take a sign or are added, and only values that do not change may be keys.
-/
namespace DialogueMarkup.Console
open Text

inductive Literal
  | number (imaginary signed : Bool)
  | text
  | octets
  /-- a value without parts that is neither a number nor in quotes -/
  | constant
  /-- values in a row; whether all of them may be keys -/
  | row (areKeys : Bool)
  | collection
  deriving DecidableEq, Repr

namespace Literal

def isKey : Literal → Bool
  | row areKeys => areKeys
  | collection => false
  | _ => true

abbrev Found := Option (Literal × List Char)

/-- Leaves out blanks, comments, and line breaks after a backslash; between brackets other line
breaks too. `comment` holds inside a comment. -/
def skipGap (nested : Bool) (comment : Bool) : List Char → List Char
  | [] => []
  | '\\' :: '\n' :: s => if comment ∧ !nested then '\n' :: s else skipGap nested false s
  | c :: s =>
    if c = '\n' then if nested then skipGap nested false s else c :: s
    else if comment then skipGap nested true s
    else if c = ' ' ∨ c = '\t' ∨ c = '\x0c' then skipGap nested false s
    else if c = '#' then skipGap nested true s
    else c :: s

/-- Leaves out blank lines and comments in front of a value, whose line must not be indented. -/
def openLine (indented comment : Bool) : List Char → Option (List Char)
  | [] => none
  | '\\' :: '\n' :: s => if comment then openLine false false s else openLine indented false s
  | c :: s =>
    if c = '\n' then openLine false false s
    else if comment then openLine indented true s
    else if c = ' ' ∨ c = '\t' then openLine true false s
    else if c = '\x0c' then openLine false false s
    else if c = '#' then openLine indented true s
    else if indented then none
    else some (c :: s)

def isHexDigit (c : Char) : Bool := c.isDigit || ('a' ≤ c && c ≤ 'f') || ('A' ≤ c && c ≤ 'F')

def digitRun (p : Char → Bool) : List Char → List Char × List Char
  | [] => ([], [])
  | c :: s =>
    if p c then (c :: (digitRun p s).1, (digitRun p s).2)
    else if c = '_' ∧ s.head?.any p then digitRun p s
    else ([], c :: s)

def decimalRun (s : List Char) : List Char × List Char :=
  if s.head?.any Char.isDigit then digitRun Char.isDigit s else ([], s)

def digitsOfBase? (letter : Char) : Option (Char → Bool) :=
  if letter = 'x' ∨ letter = 'X' then some isHexDigit
  else if letter = 'o' ∨ letter = 'O' then some fun c => '0' ≤ c && c ≤ '7'
  else if letter = 'b' ∨ letter = 'B' then some fun c => c == '0' || c == '1'
  else none

def endNumber (imaginary : Bool) (s : List Char) : Found :=
  if s.head?.any isWordCharacter then none else some (.number imaginary false, s)

def splitExponent (s : List Char) : Bool × List Char :=
  match s with
  | e :: rest =>
    let digits := match rest with
      | '+' :: rest => rest
      | '-' :: rest => rest
      | rest => rest
    if (e = 'e' ∨ e = 'E') ∧ digits.head?.any Char.isDigit then (true, (decimalRun digits).2)
    else (false, s)
  | [] => (false, s)

/-- Reads a decimal number: whole part, fraction, exponent, and the mark of imaginary ones. A
whole number does not begin with a zero, unless it is zero. -/
def readDecimal (s : List Char) : Found :=
  let (whole, s) := decimalRun s
  let (fraction?, s) := match s with
    | '.' :: rest => (some (decimalRun rest).1, (decimalRun rest).2)
    | s => (none, s)
  if whole.isEmpty && (fraction?.getD []).isEmpty then none
  else
    let (hasExponent, s) := splitExponent s
    let isWhole := fraction?.isNone && !hasExponent
    match s with
    | 'j' :: s => endNumber true s
    | 'J' :: s => endNumber true s
    | s =>
      if isWhole && whole.head? == some '0' && !whole.all (· == '0') then none
      else endNumber false s

def readNumber (s : List Char) : Found :=
  match s with
  | '0' :: letter :: rest =>
    match digitsOfBase? letter with
    | some p =>
      if (digitRun p rest).1.isEmpty then none else endNumber false (digitRun p rest).2
    | none => readDecimal s
  | s => readDecimal s

structure Quotes where
  mark : Char
  /-- three marks in a row stand around it -/
  triple : Bool
  /-- backslashes stand for themselves -/
  raw : Bool
  octets : Bool

/-- What follows a backslash is an escape: hexadecimal ones have all their digits. -/
def isEscape (q : Quotes) (c : Char) (s : List Char) : Bool :=
  let digits (n : Nat) : Bool := (s.take n).length == n && (s.take n).all isHexDigit
  if q.raw then true
  else if c = 'x' then digits 2
  else if q.octets then true
  else if c = 'u' then digits 4
  else if c = 'U' then
    digits 8 && (s.take 2).all (· == '0') &&
      ((s.drop 2).head? == some '0' || (s.drop 2).take 2 == ['1', '0'])
  else c != 'N'

def afterQuotes (q : Quotes) : List Char → Option (List Char)
  | [] => none
  | '\\' :: c :: s =>
    if isEscape q c s ∧ !(q.octets ∧ 128 ≤ c.toNat) then afterQuotes q s else none
  | c :: s =>
    if c = q.mark then
      if !q.triple then some s
      else match s with
        | a :: b :: rest => if a = c ∧ b = c then some rest else afterQuotes q (a :: b :: rest)
        | _ => none
    else if (c = '\n' ∧ !q.triple) ∨ c = '\\' ∨ (q.octets ∧ 128 ≤ c.toNat) then none
    else afterQuotes q s

def quoteLetters : List String := ["", "r", "u", "b", "br", "rb"]

def readQuotes (s : List Char) : Found :=
  let letters := s.takeWhile Char.isAlpha
  let small := letters.map Char.toLower
  if !quoteLetters.contains (String.ofList small) then none
  else match s.drop letters.length with
    | mark :: rest =>
      if mark = '"' ∨ mark = '\x27' then
        let triple := rest.take 2 == [mark, mark]
        let octets := small.contains 'b'
        (afterQuotes ⟨mark, triple, small.contains 'r', octets⟩
          (if triple then rest.drop 2 else rest)).map fun s =>
            (if octets then .octets else .text, s)
      else none
    | [] => none

/-- Takes the texts in quotes that follow one, all of its kind. -/
def joinQuotes (nested : Bool) (kind : Literal) : Nat → List Char → Found
  | 0, _ => none
  | fuel + 1, s =>
    match readQuotes (skipGap nested false s) with
    | none => some (kind, s)
    | some (other, s) => if other = kind then joinQuotes nested kind fuel s else none

def readWord (s : List Char) : Found :=
  let word := s.takeWhile isWordCharacter
  let rest := s.drop word.length
  if ["True", "False", "None"].contains (String.ofList word) then some (.constant, rest)
  else if word = "set".toList then
    match skipGap true false rest with
    | '(' :: rest =>
      match skipGap true false rest with
      | ')' :: rest => some (.collection, rest)
      | _ => none
    | _ => none
  else if word.isEmpty ∧ "...".toList.isPrefixOf s then some (.constant, s.drop 3)
  else none

mutual

def readAtom : Nat → Bool → List Char → Found
  | 0, _, _ => none
  | fuel + 1, nested, s =>
    match s with
    | '(' :: s =>
      match skipGap true false s with
      | ')' :: s => some (.row true, s)
      | s =>
        match readSum fuel true s with
        | some (v, ')' :: s) => some (v, s)
        | some (v, ',' :: s) =>
          (readItems fuel ')' v.isKey s).map fun (areKeys, s) => (.row areKeys, s)
        | _ => none
    | '{' :: s =>
      match skipGap true false s with
      | '}' :: s => some (.collection, s)
      | s => readEntries fuel s
    | s =>
      match readQuotes s with
      | some (kind, rest) => joinQuotes nested kind (rest.length + 1) rest
      | none => readNumber s <|> readWord s

/-- Reads a value with an optional sign, or a number and an imaginary one added to it, and the
gap after it. -/
def readSum : Nat → Bool → List Char → Found
  | 0, _, _ => none
  | fuel + 1, nested, s => do
    let gap := skipGap nested false
    let (left, s) ← match s with
      | [] => none
      | c :: rest =>
        if c = '+' ∨ c = '-' then
          match readAtom fuel nested (gap rest) with
          | some (.number imaginary false, s) => some (.number imaginary true, s)
          | _ => none
        else readAtom fuel nested (c :: rest)
    match gap s with
    | [] => return (left, [])
    | c :: rest =>
      if c = '+' ∨ c = '-' then
        match left, readAtom fuel nested (gap rest) with
        | .number false _, some (.number true false, s) => return (.constant, gap s)
        | _, _ => none
      else return (left, c :: rest)

def readItems : Nat → Char → Bool → List Char → Option (Bool × List Char)
  | 0, _, _, _ => none
  | fuel + 1, closing, areKeys, s =>
    match skipGap true false s with
    | [] => none
    | c :: s =>
      if c = closing then some (areKeys, s)
      else match readSum fuel true (c :: s) with
        | some (v, ',' :: s) => readItems fuel closing (areKeys && v.isKey) s
        | some (v, d :: s) => if d = closing then some (areKeys && v.isKey, s) else none
        | _ => none

def readEntries : Nat → List Char → Found
  | 0, _ => none
  | fuel + 1, s => do
    let (key, s) ← readSum fuel true s
    if !key.isKey then none
    match s with
    | '}' :: s => some (.collection, s)
    | ',' :: s =>
      match ← readItems fuel '}' true s with
      | (true, s) => some (.collection, s)
      | _ => none
    | ':' :: s =>
      match ← readSum fuel true (skipGap true false s) with
      | (_, '}' :: s) => some (.collection, s)
      | (_, ',' :: s) => readFields fuel s
      | _ => none
    | _ => none

def readFields : Nat → List Char → Found
  | 0, _ => none
  | fuel + 1, s =>
    match skipGap true false s with
    | '}' :: s => some (.collection, s)
    | s => do
      let (key, s) ← readSum fuel true s
      if !key.isKey then none
      match s with
      | ':' :: s =>
        match ← readSum fuel true (skipGap true false s) with
        | (_, '}' :: s) => some (.collection, s)
        | (_, ',' :: s) => readFields fuel s
        | _ => none
      | _ => none

end

def endsIn : Nat → List Char → Bool
  | 0, _ => false
  | fuel + 1, s =>
    match readSum (4 * s.length + 4) false s with
    | some (_, ',' :: s) =>
      let s := skipGap false false s
      (skipGap true false s).isEmpty || endsIn fuel s
    | some (_, s) => (skipGap true false s).isEmpty
    | none => false

end Literal

/-- A text is a value written out, or several with commas between them. -/
def isLiteral (s : List Char) : Bool :=
  (Literal.openLine false false s).any (Literal.endsIn (s.length + 1))

end DialogueMarkup.Console
