import DialogueMarkup.Document.Json
import DialogueMarkup.Text.Casing

/-!
What scalars mean. A plain scalar may be null, a truth value, a number, a moment or a sign for
other keys; its kind is read off its spelling. A kind that is given by a tag is taken at its word.
-/
namespace DialogueMarkup.Document.Yaml
open Text Json

inductive Kind
  | null | bool | int | real | moment | text | sequence | mapping
  /-- the key whose value is merged into its mapping -/
  | merge
  /-- the key of the value that a mapping has as a whole -/
  | default
  | unknown
  deriving DecidableEq, Repr

def kindTags : List (String × Kind) := [
  ("null", .null), ("bool", .bool), ("int", .int), ("float", .real), ("timestamp", .moment),
  ("str", .text), ("seq", .sequence), ("map", .mapping), ("merge", .merge), ("value", .default)]

def Kind.ofTag (tag : List Char) : Kind :=
  let common := "tag:yaml.org,2002:".toList
  if common.isPrefixOf tag then
    (kindTags.lookup (String.ofList (tag.drop common.length))).getD .unknown
  else .unknown

namespace Scalar

def nullWords : List String := ["", "~", "null", "Null", "NULL"]

def trueWords : List String :=
  ["yes", "Yes", "YES", "true", "True", "TRUE", "on", "On", "ON"]

def falseWords : List String :=
  ["no", "No", "NO", "false", "False", "FALSE", "off", "Off", "OFF"]

def isPart (c : Char) : Bool := c.isDigit || c == '_'

def isBinaryPart (c : Char) : Bool := c == '0' || c == '1' || c == '_'

def isOctalPart (c : Char) : Bool := ('0' ≤ c && c ≤ '7') || c == '_'

def isHexPart (c : Char) : Bool := (hexDigit? c).isSome || c == '_'

/-- What follows the parts below sixty after colons; none if there are none. -/
def afterSixties? : Nat → List Char → Option (List Char)
  | 0, _ => none
  | fuel + 1, s =>
    match s with
    | ':' :: s =>
      let digits := s.takeWhile Char.isDigit
      let rest := s.drop digits.length
      if digits.length = 1 ∨ (digits.length = 2 ∧ digits.head?.any (· ≤ '5')) then
        if rest.head? = some ':' then afterSixties? fuel rest else some rest
      else none
    | _ => none

/-- The spelling of an integer: decimal, binary after `0b`, octal after a zero, hexadecimal after
`0x`, or parts below sixty after colons. -/
def isInt (s : List Char) : Bool :=
  match (Numeral.readSign s).2 with
  | '0' :: 'b' :: ds => !ds.isEmpty && ds.all isBinaryPart
  | '0' :: 'x' :: ds => !ds.isEmpty && ds.all isHexPart
  | '0' :: ds => ds.all isOctalPart
  | c :: ds =>
    c.isDigit &&
      (ds.all isPart || afterSixties? (ds.length + 1) (ds.dropWhile isPart) == some [])
  | [] => false

def isExponent : List Char → Bool
  | [] => true
  | e :: sign :: ds =>
    (e == 'e' || e == 'E') && (sign == '+' || sign == '-') && !ds.isEmpty && ds.all Char.isDigit
  | _ => false

/-- The spelling of a real number: digits with a point, and an exponent only with its sign. -/
def isReal (s : List Char) : Bool :=
  let body := (Numeral.readSign s).2
  let opens := body.head?.any Char.isDigit
  let rest := body.dropWhile isPart
  [".inf", ".Inf", ".INF"].contains (String.ofList body) ||
    [".nan", ".NaN", ".NAN"].contains (String.ofList s) ||
    (match s with
      | '.' :: d :: ds => d.isDigit && isExponent (ds.dropWhile isPart)
      | _ => false) ||
    (opens && (match rest with
      | '.' :: ds => isExponent (ds.dropWhile isPart)
      | _ => false)) ||
    (opens && (match afterSixties? (rest.length + 1) rest with
      | some ('.' :: ds) => ds.all isPart
      | _ => false))

def shortNumber? : List Char → Option (Nat × List Char)
  | c :: d :: s =>
    if !c.isDigit then none
    else if d.isDigit then some (digitsValue [c, d], s)
    else some (digitsValue [c], d :: s)
  | [c] => if c.isDigit then some (digitsValue [c], []) else none
  | [] => none

def pairAfter? (mark : Char) : List Char → Option (Nat × List Char)
  | m :: c :: d :: s =>
    if m = mark ∧ c.isDigit ∧ d.isDigit then some (digitsValue [c, d], s) else none
  | _ => none

def after? (mark : Char) : List Char → Option (List Char)
  | c :: s => if c = mark then some s else none
  | [] => none

/-- The millionths that the digits of a fraction mean; digits beyond them count for nothing. -/
def micros (digits : List Char) : Nat :=
  digitsValue ((digits ++ List.replicate 6 '0').take 6)

/-- The minutes that a clock is ahead, to the end of a text; none of a clock that does not say. -/
def ahead? (s : List Char) : Option (Option Int) :=
  if s.isEmpty then some none
  else match s.dropWhile fun c => c == ' ' || c == '\t' with
    | ['Z'] => some (some 0)
    | sign :: s => do
      if sign ≠ '+' ∧ sign ≠ '-' then none
      let (hours, s) ← shortNumber? s
      let minutes ← if s.isEmpty then some 0
        else (pairAfter? ':' s).bind fun (n, s) => if s.isEmpty then some n else none
      let total : Int := 60 * hours + minutes
      return some (if sign = '-' then -total else total)
    | [] => none

def clockTime? (s : List Char) : Option ClockTime := do
  let (hour, s) ← shortNumber? s
  let (minute, s) ← pairAfter? ':' s
  let (second, s) ← pairAfter? ':' s
  let fraction := match s with
    | '.' :: s => s.takeWhile Char.isDigit
    | _ => []
  let s := if s.head? = some '.' then s.drop (fraction.length + 1) else s
  return ⟨hour, minute, second, micros fraction, ← ahead? s⟩

def moment? (s : List Char) : Option Moment := do
  let year := s.take 4
  if year.length < 4 ∨ !year.all Char.isDigit then none
  let (month, s) ← shortNumber? (← after? '-' (s.drop 4))
  let (day, s) ← shortNumber? (← after? '-' s)
  let make (time : Option ClockTime) : Moment := ⟨digitsValue year, month, day, time⟩
  match s with
  | [] => return make none
  | 'T' :: s => return make (← clockTime? s)
  | 't' :: s => return make (← clockTime? s)
  | c :: s =>
    if c = ' ' ∨ c = '\t' then
      return make (← clockTime? (s.dropWhile fun c => c == ' ' || c == '\t'))
    else none

/-- The spelling of a moment; a day alone has two digits for its month and two for itself. -/
def isMoment (s : List Char) : Bool :=
  match moment? s with
  | some m => m.time.isSome || s.length == 10
  | none => false

def plainKind (s : List Char) : Kind :=
  let word := String.ofList s
  if trueWords.contains word ∨ falseWords.contains word then .bool
  else if isReal s then .real
  else if isInt s then .int
  else if word = "<<" then .merge
  else if nullWords.contains word then .null
  else if isMoment s then .moment
  else if word = "=" then .default
  else .text

def parts (s : List Char) : List (List Char) := s.splitOn ':'

def dropBaseSign (letter : Char) : List Char → List Char
  | '0' :: c :: s => if c.toLower = letter then s else '0' :: c :: s
  | s => s

def baseLetter : Nat → Char
  | 2 => 'b'
  | 8 => 'o'
  | _ => 'x'

/-- The number that a text means in a base. Blanks may surround it, and it may have a sign and the
letter of its base. -/
def ofBase (base : Nat) (s : List Char) : Except DataFault Int :=
  let (negative, body) := Numeral.readSign (trimOf Numeral.isPadding s)
  match (dropBaseSign (baseLetter base) body).mapM digit? with
  | none | some [] => .error (.malformed base (quoted s))
  | some ds =>
    let n : Nat := ds.foldl (base * · + ·) 0
    .ok (if negative then -n else n)
where
  digit? (c : Char) : Option Nat := (decimalValue? c <|> hexDigit? c).filter (· < base)

def unsignedInt (s : List Char) : Except DataFault Int :=
  match s with
  | [] => .error .emptyNumber
  | '0' :: 'b' :: ds => ofBase 2 ds
  | '0' :: 'x' :: ds => ofBase 16 ds
  | '0' :: _ => ofBase 8 s
  | s => do
    if s.contains ':' then
      let ns ← (parts s).mapM fun part => (Numeral.read part).mapError DataFault.numeral
      return ns.foldl (60 * · + ·) 0
    else (Numeral.read s).mapError .numeral

def int (s : List Char) : Except DataFault Document := do
  let (negative, body) := Numeral.readSign (s.filter (· != '_'))
  let n ← unsignedInt body
  return .int (if negative then -n else n)

def latinDigit (c : Char) : Char :=
  match decimalValue? c with
  | some d => d.digitChar
  | none => c

def realPart (s : List Char) : Except DataFault Real :=
  let (negative, body) := Numeral.readSign ((trimOf Numeral.isPadding s).map latinDigit)
  let word := String.ofList body
  if word = "inf" ∨ word = "infinity" then .ok (.infinite negative)
  else if word = "nan" then .ok .undefined
  else
    let whole := takeDigits body
    let rest := dropDigits body
    let fraction := match rest with
      | '.' :: rest => takeDigits rest
      | _ => []
    let rest := if rest.head? = some '.' then rest.drop (fraction.length + 1) else rest
    let value (power : Int) : Except DataFault Real :=
      .ok (.ofDecimal negative (digitsValue (whole ++ fraction)) (power - fraction.length))
    if whole.isEmpty ∧ fraction.isEmpty then .error (.noReal (quoted s))
    else if rest.isEmpty then value 0
    else match readExponent? rest with
      | some (power, []) => value power
      | _ => .error (.noReal (quoted s))

/-- The sum of parts in a base of sixty, from the last one up. -/
def sixties (base : Nat) (sum : Real) : List Real → Real
  | [] => sum
  | x :: rest =>
    sixties (60 * base) (sum.plus (x.times (.ofFraction false base 1))) rest

def real (s : List Char) : Except DataFault Document := do
  let (negative, body) := Numeral.readSign (lower (s.filter (· != '_')))
  if body.isEmpty then throw .emptyNumber
  let x ← if body = ".inf".toList then pure (.infinite false)
    else if body = ".nan".toList then pure .undefined
    else if body.contains ':' then
      return .real ((sixties 1 (.finite false 0 0)
        (← (parts body).mapM realPart).reverse).signed negative)
    else realPart body
  return .real (if negative then x.signed true else x)

def bool (s : List Char) : Except DataFault Document :=
  let word := String.ofList (lower s)
  if trueWords.contains word then .ok (.bool true)
  else if falseWords.contains word then .ok (.bool false)
  else .error (.noTruth (lower s))

def moment (s : List Char) : Except DataFault Document :=
  match moment? s with
  | some m => (m.make.mapError DataFault.moment).map .moment
  | none => .error .noMoment

def value (kind : Kind) (points : List Nat) : Except DataFault Document :=
  let s := points.map Char.ofNat
  match kind with
  | .null => .ok .null
  | .bool => bool s
  | .int => int s
  | .real => real s
  | .moment => moment s
  | .text => .ok (ofCodes points)
  | _ => .error (.sheet .tag)

end Scalar
end DialogueMarkup.Document.Yaml
