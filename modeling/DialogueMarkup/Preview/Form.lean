import DialogueMarkup.State.Basic
import DialogueMarkup.Summary

/-!
The form of a preview: a toggle for every switch and self switch that a text reads, and an input
for every variable. Applied to a state, the form writes all its values; an input that is no
numeral writes nothing, and an empty one writes zero.
-/
namespace DialogueMarkup.Preview
open Text

structure Form where
  switches : List (Int × Bool)
  selfSwitches : List (List Char × Bool)
  vars : List (Int × List Char)
  deriving DecidableEq, Repr

inductive Row
  | label (styled : List Char)
  | toggle (id : List Char) (on : Bool)
  | input (id : List Char) (text : List Char)
  deriving DecidableEq, Repr

namespace Form

def ofSummary (m : Summary) (st : State) : Form where
  switches := m.switches.map fun id => (id, st.switchAt none (.number id))
  selfSwitches := m.selfSwitches.map fun slot =>
    (slot, st.switchAt (some st.current) (.name slot))
  vars := m.vars.map fun id => (id, Numeral.write (st.variableAt none (.number id)))

def boldLabel (s : List Char) : Row := .label ("[bold]".toList ++ s ++ "[/bold]".toList)

def rows (f : Form) : List Row :=
  let rows :=
    (f.switches.flatMap fun e => [boldLabel ("Switch ".toList ++ Numeral.write e.1),
      .toggle ("switch-".toList ++ Numeral.write e.1) e.2]) ++
    (f.selfSwitches.flatMap fun e => [boldLabel ("Self switch ".toList ++ e.1),
      .toggle ("self-".toList ++ e.1) e.2]) ++
    (f.vars.flatMap fun e => [boldLabel ("Variable ".toList ++ Numeral.write e.1),
      .input ("var-".toList ++ Numeral.write e.1) e.2])
  if rows.isEmpty then
    [.label "[dim italic]No switches or variables referenced.[/dim italic]".toList]
  else rows

/-- Entries with the value of a key replaced; none when the key is not there. -/
def replace? {κ υ : Type} [DecidableEq κ] (entries : List (κ × υ)) (k : κ) (v : υ) :
    Option (List (κ × υ)) :=
  if entries.any (·.1 = k) then some (entries.map fun e => if e.1 = k then (k, v) else e)
  else none

def setSwitch? (f : Form) (id : Int) (on : Bool) : Option Form :=
  (replace? f.switches id on).map fun es => { f with switches := es }

def setSelf? (f : Form) (slot : List Char) (on : Bool) : Option Form :=
  (replace? f.selfSwitches slot on).map fun es => { f with selfSwitches := es }

def setVariable? (f : Form) (id : Int) (text : List Char) : Option Form :=
  (replace? f.vars id text).map fun es => { f with vars := es }

def inputValue? (text : List Char) : Option Int :=
  if text.isEmpty then some 0 else (Numeral.read text).toOption

def applyTo (f : Form) (st : State) : State :=
  let st := f.switches.foldl (fun st e => st.setSwitchAt none (.number e.1) e.2) st
  let st := f.selfSwitches.foldl
    (fun st e => st.setSwitchAt (some st.current) (.name e.1) e.2) st
  f.vars.foldl (fun st e =>
    match inputValue? e.2 with
    | some n => st.setVariableAt none (.number e.1) n
    | none => st) st

end Form
end DialogueMarkup.Preview
