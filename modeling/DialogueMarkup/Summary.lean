import DialogueMarkup.Condition.Parser
import DialogueMarkup.Markup.Brace
import DialogueMarkup.Markup.Directive

/-!
What a text depends on, found without a state: the switches and variables that its conditions
read, its self references, its party conditions, its codes, and the conditions that are malformed.
Every head of a directive counts, whichever branches a state would choose.
-/
namespace DialogueMarkup
open Text Markup

structure Summary where
  directiveCount : Nat := 0
  opcodes : List (Opcode × Nat) := []
  switches : List Int := []
  vars : List Int := []
  selfSwitches : List (List Char) := []
  selfReferences : List (List Char) := []
  partyConditions : List (List Char) := []
  grammarCodes : List (List Char) := []
  braceEscapes : Nat := 0
  problems : List (List Char) := []
  deriving DecidableEq, Repr

namespace Summary

def isClean (m : Summary) : Bool := m.problems.isEmpty

/-- A list with an element that it did not hold added at its end. -/
def note {α : Type} [DecidableEq α] (xs : List α) (x : α) : List α :=
  if x ∈ xs then xs else xs ++ [x]

def count (op : Opcode) : List (Opcode × Nat) → List (Opcode × Nat)
  | [] => [(op, 1)]
  | (o, n) :: rest => if o = op then (o, n + 1) :: rest else (o, n) :: count op rest

def label (ref : SelfRef) : List Char :=
  if ref.text.isEmpty then
    (match ref.kind with | .switch => "switch".toList | .variable => "variable".toList) ++
      ':' :: ref.slot.text
  else ref.text

def noteOperand (m : Summary) : Operand → Summary
  | .constant _ => m
  | .global .switch id => { m with switches := note m.switches id }
  | .global .variable id => { m with vars := note m.vars id }
  | .self ref =>
    match ref.slot with
    | .name slot =>
      if ref.needsCrossContext then { m with selfReferences := note m.selfReferences (label ref) }
      else { m with selfSwitches := note m.selfSwitches slot }
    | .number _ => { m with selfReferences := note m.selfReferences (label ref) }

def noteCondition (m : Summary) (head : Head) : Condition → Summary
  | .switch operand _ => m.noteOperand operand
  | .compare left _ right => (m.noteOperand left).noteOperand right
  | .partySize .. | .member .. =>
    { m with partyConditions := m.partyConditions ++
        [head.opcode.name ++ argumentSource head.condition] }

/-- Notes the head of a directive; a malformed condition is a problem, a numeral that is too long
ends the scan. -/
def noteHead (m : Summary) (head : Head) : Except NumeralFault Summary :=
  let m := { m with
    directiveCount := m.directiveCount + 1
    opcodes := count head.opcode m.opcodes }
  match Condition.parse head.opcode head.condition with
  | .ok condition => .ok (m.noteCondition head condition)
  | .error (.numeral fault) => .error fault
  | .error fault => .ok { m with problems := m.problems ++ [fault.message] }

/-- Reads the mention of a grammar code: number codes with a bracket, articles without a letter
after them. -/
def readMention (escape : Char) : Reader (List Char) := fun s => do
  let (_, s) ← readEscape escape s
  let numberCode := ["NUMWORD", "ORDWORD", "ORD"].findSome? fun name => do
    let (_, s) ← readWord name.toList s
    return (name.toList, ← readChar '[' s)
  let fold := ["UP", "LOW"].findSome? fun name =>
    (readWord name.toList s).map fun r => (name.toList, r.2)
  let article := do
    let (_, s) ← readWord ['A', 'N'] s
    if s.head?.any isLatinLetter then none
    return (['A', 'N'], s)
  numberCode <|> fold <|> article

def readBraceEscape (escape : Char) : Reader (List Char) := fun s =>
  readBare escape ['B', 'O'] s <|> readBare escape ['B', 'C'] s

def ofText (escape : Char) (s : List Char) : Except NumeralFault Summary := do
  let m ← (marks (readHead escape) s).foldlM noteHead {}
  return { m with
    switches := m.switches.mergeSort (· ≤ ·)
    vars := m.vars.mergeSort (· ≤ ·)
    grammarCodes := (marks (readMention escape) s).foldl note []
    braceEscapes := (marks (readBraceEscape escape) s).length }

end Summary
end DialogueMarkup
