import DialogueMarkup.Text.Blank
import DialogueMarkup.Text.Digit
import DialogueMarkup.Text.Quoted

/-!
Integers in text. A numeral has an optional sign and decimal digits of any script, single
underscores may stand between digits, and blanks may surround it. Numerals of more than
`Numeral.maxDigits` digits are refused, leading zeros counted.
-/
namespace DialogueMarkup

inductive NumeralFault
  | malformed (text : List Char)
  | tooLong (digits : Nat)
  deriving DecidableEq, Repr

namespace Numeral
open Text

def maxDigits : Nat := 4300

def writeNat (n : Nat) : List Char := Nat.toDigits 10 n

def write (n : Int) : List Char :=
  if n < 0 then '-' :: writeNat n.natAbs else writeNat n.natAbs

def value (digits : List Nat) : Nat := digits.foldl (10 * · + ·) 0

/-- The wording of a fault; a text that is no numeral is quoted up to 200 characters. -/
def message : NumeralFault → List Char
  | .malformed text =>
    "invalid literal for int() with base 10: ".toList ++ (quoted text).take 200
  | .tooLong digits =>
    "Exceeds the limit (".toList ++ writeNat maxDigits ++
      " digits) for integer string conversion: value has ".toList ++ writeNat digits ++
      " digits; use sys.set_int_max_str_digits() to increase the limit".toList

/-- Blanks that may surround a numeral: of ASCII only the space, tabs and breaks. -/
def isPadding (c : Char) : Bool :=
  c == ' ' || (9 ≤ c.toNat && c.toNat ≤ 13) || (128 ≤ c.toNat && isBlank c)

/-- Reads digits with single underscores between them. -/
def readDigits : List Char → Option (List Nat × List Char)
  | [] => none
  | c :: s =>
    match decimalValue? c with
    | none => none
    | some d =>
      match s with
      | '_' :: s => (readDigits s).map fun r => (d :: r.1, r.2)
      | s =>
        match readDigits s with
        | some (ds, rest) => some (d :: ds, rest)
        | none =>
          -- a digit stood last; a run broken off after an underscore is no numeral
          if (s.head?.bind decimalValue?).isSome then none else some ([d], s)

def readSign : List Char → Bool × List Char
  | '-' :: s => (true, s)
  | '+' :: s => (false, s)
  | s => (false, s)

def ofDigits (negative : Bool) (digits : List Nat) : Except NumeralFault Int :=
  if maxDigits < digits.length then .error (.tooLong digits.length)
  else .ok (if negative then -(value digits : Int) else value digits)

def read (s : List Char) : Except NumeralFault Int :=
  let (negative, body) := readSign (s.dropWhile isPadding)
  match readDigits body with
  | none => .error (.malformed s)
  | some (digits, rest) =>
    match ofDigits negative digits with
    | .error fault => .error fault
    | .ok n => if rest.all isPadding then .ok n else .error (.malformed s)

def readSigned (s : List Char) : Option ((Bool × List Nat) × List Char) :=
  let (negative, s) := match s with
    | '-' :: s => (true, s)
    | s => (false, s)
  let digits := (s.takeWhile isDecimal).filterMap decimalValue?
  if digits.isEmpty then none else some ((negative, digits), s.dropWhile isDecimal)

def readPlain (s : List Char) : Option (Except NumeralFault Int) :=
  match readSigned (trimLeft s) with
  | some ((negative, digits), rest) =>
    if isBlankText rest then some (ofDigits negative digits) else none
  | none => none

end Numeral
end DialogueMarkup
