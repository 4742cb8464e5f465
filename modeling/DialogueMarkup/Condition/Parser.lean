import DialogueMarkup.Condition
import DialogueMarkup.Operand.Parser

/-!
Conditions as they are written, each opcode with a grammar of its own. On the size of the party:
an optional label, an optional operator and a number. On a member: the beginning of the name of an
attribute, an operator and a number.
-/
namespace DialogueMarkup
open Text

def Attribute.name : Attribute → List Char
  | actor => "actor".toList
  | role => "class".toList
  | state => "state".toList

def Attribute.ofBeginning? (word : List Char) : Option Attribute :=
  if word.isEmpty then none
  else [actor, role, state].find? fun a => (word.map Char.toLower).isPrefixOf a.name

def isLabelCharacter (c : Char) : Bool := c.isAlpha || c == '_' || c == ' '

/-- An operator and a number, and nothing after them but blanks. -/
def readBound? (s : List Char) : Option (Comparison × Except NumeralFault Int) := do
  let (op, s) ← Comparison.read s
  return (op, ← Numeral.readPlain s)

def readPartySize? (text : List Char) : Option (Comparison × Except NumeralFault Int) :=
  let s := trimLeft (text.dropWhile isBlank |>.dropWhile isLabelCharacter)
  match s with
  | [] => none
  | c :: _ =>
    if Comparison.isSign c then readBound? s else (Numeral.readPlain s).map fun n => (.eq, n)

def readMember? (text : List Char) :
    Option (List Char × Comparison × Except NumeralFault Int) := do
  let s := trimLeft text
  let word := s.takeWhile Char.isAlpha
  if word.isEmpty then none
  let (op, n) ← readBound? (trimLeft (s.dropWhile Char.isAlpha))
  return (word, op, n)

def Condition.parse (opcode : Opcode) (text : List Char) : Except Fault Condition := do
  if isBlankText text then throw (.malformed (.empty opcode) text)
  match opcode with
  | .on | .off => return .switch (← Operand.parseSwitch text) (opcode = .off)
  | .ov =>
    let (left, op, right) ← Operand.parseComparison text
    return .compare left op right
  | .ops | .opc =>
    match readPartySize? text with
    | none => throw (.malformed .partyShape text)
    | some (op, n) => return .partySize op (← n.mapError .numeral) (opcode = .opc)
  | .opl | .opm =>
    match readMember? text with
    | none => throw (.malformed .memberShape text)
    | some (word, op, n) =>
      match Attribute.ofBeginning? word with
      | none => throw (.malformed .memberAttribute text)
      | some a =>
        return .member (if opcode = .opl then .leader else .anyMember) a op
          (← n.mapError .numeral)

def Condition.parseNamed (name text : List Char) : Except Fault Condition :=
  match Opcode.ofName? name with
  | none => .error (.unknownOpcode name)
  | some opcode => Condition.parse opcode text

def Condition.evaluate (st : State) (current : Scope) (name text : List Char) :
    Except Fault Bool := do
  (← Condition.parseNamed name text).holds st current

theorem Condition.evaluate_of_name {name : List Char} {opcode : Opcode}
    (hname : Opcode.ofName? name = some opcode) (st : State) (current : Scope) (text : List Char) :
    Condition.evaluate st current name text =
      (Condition.parse opcode text >>= fun c => c.holds st current) := by
  simp [Condition.evaluate, Condition.parseNamed, hname]

end DialogueMarkup
