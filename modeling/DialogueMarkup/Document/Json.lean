import DialogueMarkup.Document.Basic

/-!
Documents in JSON. Numbers without a fraction or an exponent are integers, of at most
`Numeral.maxDigits` digits; `NaN` and the infinities are real numbers.
-/
namespace DialogueMarkup.Document.Json
open Text

/-- How deep lists and objects may nest where nothing else is said. -/
def usualDepth : Nat := 985

def isGap (c : Char) : Bool := c == ' ' || c == '\t' || c == '\n' || c == '\r'

def skipGap (s : List Char) : List Char := s.dropWhile isGap

def readLiteral? (word : String) (s : List Char) : Option (List Char) :=
  if word.toList.isPrefixOf s then some (s.drop word.length) else none

def hexDigit? (c : Char) : Option Nat :=
  if '0' ≤ c ∧ c ≤ '9' then some (c.toNat - '0'.toNat)
  else if 'a' ≤ c ∧ c ≤ 'f' then some (c.toNat - 'a'.toNat + 10)
  else if 'A' ≤ c ∧ c ≤ 'F' then some (c.toNat - 'A'.toNat + 10)
  else none

def readUnit? : List Char → Option (Nat × List Char)
  | a :: b :: c :: d :: s => do
    let n := ((← hexDigit? a) * 16 + (← hexDigit? b)) * 16 + (← hexDigit? c)
    return (n * 16 + (← hexDigit? d), s)
  | _ => none

def readLowHalf? : List Char → Option (Nat × List Char)
  | '\\' :: 'u' :: s =>
    match readUnit? s with
    | some (n, s) => if 0xDC00 ≤ n ∧ n < 0xE000 then some (n, s) else none
    | none => none
  | _ => none

def plainEscape? : Char → Option Char
  | '"' => some '"'
  | '\\' => some '\\'
  | '/' => some '/'
  | 'b' => some '\x08'
  | 'f' => some '\x0c'
  | 'n' => some '\n'
  | 'r' => some '\r'
  | 't' => some '\t'
  | _ => none

/-- Splits off one code point of a text in quotes, the quotation mark apart; two halves of a pair
are one code point, and a half that stands alone is one of its own. -/
def readCode? : List Char → Option (Nat × List Char)
  | [] => none
  | '\\' :: 'u' :: s => do
    let (n, s) ← readUnit? s
    if 0xD800 ≤ n ∧ n < 0xDC00 then
      match readLowHalf? s with
      | some (m, s) => return (0x10000 + (n - 0xD800) * 0x400 + (m - 0xDC00), s)
      | none => return (n, s)
    else return (n, s)
  | '\\' :: c :: s => (plainEscape? c).map (·.toNat, s)
  | c :: s => if c = '\\' ∨ c.toNat < 32 then none else some (c.toNat, s)

def readText? : Nat → List Char → Option (List Nat × List Char)
  | 0, _ => none
  | fuel + 1, s =>
    match s with
    | '"' :: s => some ([], s)
    | s => do
      let (n, s) ← readCode? s
      let (points, s) ← readText? fuel s
      return (n :: points, s)

def takeDigits (s : List Char) : List Char := s.takeWhile Char.isDigit

def dropDigits (s : List Char) : List Char := s.dropWhile Char.isDigit

def digitsValue (ds : List Char) : Nat := Numeral.value (ds.map fun c => c.toNat - '0'.toNat)

def readFraction (s : List Char) : List Char × List Char :=
  match s with
  | '.' :: rest => if (takeDigits rest).isEmpty then ([], s) else (takeDigits rest, dropDigits rest)
  | _ => ([], s)

def readExponent? (s : List Char) : Option (Int × List Char) :=
  match s with
  | [] => none
  | e :: rest =>
    if e = 'e' ∨ e = 'E' then
      let (negative, rest) := Numeral.readSign rest
      if (takeDigits rest).isEmpty then none
      else
        let n : Int := digitsValue (takeDigits rest)
        some (if negative then -n else n, dropDigits rest)
    else none

/-- Splits off the digits in front of a fraction; after a zero there are no more. -/
def readWhole : List Char → List Char × List Char
  | '0' :: rest => (['0'], rest)
  | s => (takeDigits s, dropDigits s)

def readNumber (negative : Bool) (s : List Char) : Except DataFault (Document × List Char) :=
  let (whole, s) := readWhole s
  if whole.isEmpty then .error .noDocument
  else
    let (fraction, s) := readFraction s
    match readExponent? s with
    | some (power, s) =>
      .ok (.real (.ofDecimal negative (digitsValue (whole ++ fraction))
        (power - fraction.length)), s)
    | none =>
      if fraction.isEmpty then
        match Numeral.ofDigits negative (whole.map fun c => c.toNat - '0'.toNat) with
        | .ok n => .ok (.int n, s)
        | .error fault => .error (.numeral fault)
      else
        .ok (.real (.ofDecimal negative (digitsValue (whole ++ fraction))
          (-(fraction.length : Int))), s)

def readAtom (s : List Char) : Except DataFault (Document × List Char) :=
  let literals : List (String × Document) := [
    ("null", .null), ("true", .bool true), ("false", .bool false),
    ("NaN", .real .undefined), ("Infinity", .real (.infinite false)),
    ("-Infinity", .real (.infinite true))]
  match literals.findSome? fun l => (readLiteral? l.1 s).map (l.2, ·) with
  | some r => .ok r
  | none =>
    match s with
    | '-' :: s => readNumber true s
    | s => readNumber false s

mutual

/-- Reads a value; `depth` levels of nesting are left. -/
def readValue : Nat → Nat → List Char → Except DataFault (Document × List Char)
  | 0, _, _ => .error .noDocument
  | fuel + 1, depth, s =>
    match s with
    | '"' :: rest =>
      match readText? (rest.length + 1) rest with
      | some (points, rest) => .ok (ofCodes points, rest)
      | none => .error .noDocument
    | '[' :: rest =>
      match depth with
      | 0 => .error .tooDeep
      | depth + 1 =>
        match skipGap rest with
        | ']' :: rest => .ok (.list [], rest)
        | rest => readItems fuel depth [] rest
    | '{' :: rest =>
      match depth with
      | 0 => .error .tooDeep
      | depth + 1 =>
        match skipGap rest with
        | '}' :: rest => .ok (.object [], rest)
        | rest => readFields fuel depth [] rest
    | s => readAtom s

/-- Reads the items of a list after those already read, the last of which comes first. -/
def readItems : Nat → Nat → List Document → List Char → Except DataFault (Document × List Char)
  | 0, _, _, _ => .error .noDocument
  | fuel + 1, depth, items, s =>
    match readValue fuel depth s with
    | .error fault => .error fault
    | .ok (v, s) =>
      match skipGap s with
      | ',' :: s => readItems fuel depth (v :: items) (skipGap s)
      | ']' :: s => .ok (.list (v :: items).reverse, s)
      | _ => .error .noDocument

def readFields : Nat → Nat → List (Document × Document) → List Char →
    Except DataFault (Document × List Char)
  | 0, _, _, _ => .error .noDocument
  | fuel + 1, depth, fields, s =>
    match s with
    | '"' :: s =>
      match readText? (s.length + 1) s with
      | none => .error .noDocument
      | some (points, s) =>
        let name := ofCodes points
        match skipGap s with
        | ':' :: s =>
          match readValue fuel depth (skipGap s) with
          | .error fault => .error fault
          | .ok (v, s) =>
            match skipGap s with
            | ',' :: s => readFields fuel depth (setField fields name v) (skipGap s)
            | '}' :: s => .ok (.object (setField fields name v), s)
            | _ => .error .noDocument
        | _ => .error .noDocument
    | _ => .error .noDocument

end

/-- The document that a text is, gaps around it set aside; `depth` is the deepest nesting. -/
def parse (s : List Char) (depth : Nat := usualDepth) : Except DataFault Document := do
  -- a bracket takes two steps, one for the collection and one for its first entry
  let (v, rest) ← readValue (2 * s.length + 1) depth (skipGap s)
  if (skipGap rest).isEmpty then return v else throw .noDocument

end DialogueMarkup.Document.Json
