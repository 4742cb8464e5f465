import DialogueMarkup.Operand

/-!
Operands as they are written. A switch is `12` or `s12`, a self switch a letter from `A` to `D` or
`ss12`; a variable is `v12`, a self variable `sv12`. Self slots take an address: `@context`,
`@container:context` or `@container:`.
-/
namespace DialogueMarkup
open Text

namespace Place

/-- One part of an address; digits are an id, and a blank part is none. -/
def parse (s : List Char) : Except Fault (Option Place) :=
  if (trim s).isEmpty then .ok none
  else if isDigits (trim s) then
    ((Numeral.read (trim s)).map fun n => some (id n)).mapError .numeral
  else .ok (some (name (trim s)))

end Place

def parseAddress (address : Option (List Char)) (fragment : List Char) :
    Except Fault (Option Place × Option Place) :=
  match address with
  | none => .ok (none, none)
  | some address => do
    let address := trim address
    match address.dropWhile (· != ':') with
    | [] => return (none, ← Place.parse address)
    | _ :: context =>
      if context.contains ':' then throw (.malformed .address fragment)
      let container ← Place.parse (address.takeWhile (· != ':'))
      return (container, ← Place.parse context)

inductive Sigil
  | bare
  | global
  | self
  deriving DecidableEq, Repr

/-- The address after an operand's slot: none at the end of the text, else all that follows an
at sign, which must be on one line and not empty. -/
def readAddress? : List Char → Option (Option (List Char))
  | [] => some none
  | '@' :: address =>
    if address.isEmpty || address.contains '\n' then none else some (some address)
  | _ => none

/-- Splits off the sigil of a switch; only plain letters make the self sigil. -/
def readSwitchSigil (s : List Char) : Sigil × List Char :=
  match readWord ['s', 's'] s with
  | some (spelling, rest) => (if lower spelling = ['s', 's'] then .self else .global, rest)
  | none =>
    match readWord ['s'] s with
    | some (_, rest) => (.global, rest)
    | none => (.bare, s)

def isSelfLetter (c : Char) : Bool := ('A' ≤ c && c ≤ 'D') || ('a' ≤ c && c ≤ 'd')

inductive SwitchSlot
  | letter (c : Char)
  | digits (values : List Nat)
  deriving DecidableEq, Repr

def readSwitchSlot : List Char → Option (SwitchSlot × List Char)
  | [] => none
  | c :: s =>
    if isSelfLetter c then some (.letter c, s)
    else
      let digits := ((c :: s).takeWhile isDecimal).filterMap decimalValue?
      if digits.isEmpty then none else some (.digits digits, (c :: s).dropWhile isDecimal)

def readSwitch? (token : List Char) : Option (Sigil × SwitchSlot × Option (List Char)) := do
  let (sigil, s) := readSwitchSigil token
  let (slot, s) ← readSwitchSlot s
  return (sigil, slot, ← readAddress? s)

def Operand.parseSwitch (text : List Char) : Except Fault Operand := do
  let token := trim text
  match readSwitch? token with
  | none => throw (.malformed .switchReference text)
  | some (sigil, slot, address) =>
    let (container, context) ← parseAddress address text
    match slot with
    | .letter c => return .self ⟨.switch, .name [c.toUpper], container, context, token⟩
    | .digits values =>
      let number := (Numeral.ofDigits false values).mapError Fault.numeral
      if sigil = .self then
        return .self ⟨.switch, .number (← number), container, context, token⟩
      if address.isSome then throw (.malformed .addressOnSwitch text)
      return .global .switch (← number)

structure VariableToken where
  sigil : Sigil
  number : Int
  address : Option (List Char)
  text : List Char
  deriving DecidableEq, Repr

namespace VariableToken

def readSigil (s : List Char) : Sigil × List Char :=
  match readWord ['s', 'v'] s with
  | some (spelling, rest) => (if lower spelling = ['s', 'v'] then .self else .global, rest)
  | none =>
    match readWord ['v'] s with
    | some (_, rest) => (.global, rest)
    | none => (.bare, s)

def read? (token : List Char) : Option (Sigil × (Bool × List Nat) × Option (List Char)) := do
  let (sigil, s) := readSigil token
  let (numeral, s) ← Numeral.readSigned s
  return (sigil, numeral, ← readAddress? s)

def parse (token fragment : List Char) : Except Fault VariableToken :=
  match read? token with
  | none => throw (.malformed .variableOperand fragment)
  | some (sigil, (negative, digits), address) => do
    if address.isSome && sigil != .self then throw (.malformed .addressOnVariable fragment)
    let number ← (Numeral.ofDigits negative digits).mapError Fault.numeral
    return ⟨sigil, number, address, token⟩

def operand (t : VariableToken) (fragment : List Char) : Except Fault Operand := do
  if t.number < 0 then throw (.malformed .negativeVariable fragment)
  if t.sigil = .self then
    let (container, context) ← parseAddress t.address fragment
    return .self ⟨.variable, .number t.number, container, context, t.text⟩
  return .global .variable t.number

end VariableToken

/-- A character of a token: neither blank nor part of an operator. -/
def isTokenCharacter (c : Char) : Bool := !isBlank c && !Comparison.isSign c

def splitComparison? (text : List Char) : Option (List Char × Comparison × List Char) := do
  let s := trimLeft text
  let left := s.takeWhile isTokenCharacter
  let (op, s) ← Comparison.read (trimLeft (s.dropWhile isTokenCharacter))
  let s := trimLeft s
  let right := s.takeWhile isTokenCharacter
  if left.isEmpty || right.isEmpty || !isBlankText (s.dropWhile isTokenCharacter) then none
  return (left, op, right)

/-- Both sides of a comparison of variables. A token with a sigil is a variable; a bare number is a
constant on the right, and on the left only when the right side is a variable. -/
def Operand.parseComparison (text : List Char) :
    Except Fault (Operand × Comparison × Operand) := do
  match splitComparison? text with
  | none => throw (.malformed .variableShape text)
  | some (left, op, right) =>
    let left ← VariableToken.parse left text
    let right ← VariableToken.parse right text
    let rightOperand ←
      if right.sigil = .bare then pure (.constant right.number) else right.operand text
    let leftOperand ←
      if left.sigil = .bare ∧ right.sigil ≠ .bare then pure (.constant left.number)
      else left.operand text
    return (leftOperand, op, rightOperand)

end DialogueMarkup
