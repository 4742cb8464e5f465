import DialogueMarkup.State.Slot
import DialogueMarkup.State.Table

/-!
The state of a game that conditions read: switches and variables, self slots that belong to a
scope, the party, the current scope, and the names of containers and contexts.
-/
namespace DialogueMarkup

structure Member where
  actor : Int
  role : Int
  states : List Int
  deriving DecidableEq, Repr

structure State where
  switches : Table Slot Bool := []
  vars : Table Slot Int := []
  selfSwitches : Table (Scope × Slot) Bool := []
  selfVars : Table (Scope × Slot) Int := []
  party : List Member := []
  coreSize? : Option Int := none
  current : Scope := ⟨1, none⟩
  containers : Table (List Char) Int := []
  contexts : Table (List Char) Int := []
  crossContext : Bool := true
  deriving DecidableEq, Repr

namespace State

/-- The switch at a slot in normal form, of a scope or global; off when never set. -/
def switchAt (st : State) (scope : Option Scope) (slot : Slot) : Bool :=
  match scope with
  | none => (st.switches.get? slot).getD false
  | some scope => (st.selfSwitches.get? (scope, slot)).getD false

/-- The variable at a slot in normal form, of a scope or global; zero when never set. -/
def variableAt (st : State) (scope : Option Scope) (slot : Slot) : Int :=
  match scope with
  | none => (st.vars.get? slot).getD 0
  | some scope => (st.selfVars.get? (scope, slot)).getD 0

def setSwitchAt (st : State) (scope : Option Scope) (slot : Slot) (value : Bool) : State :=
  match scope with
  | none => { st with switches := st.switches.put slot value }
  | some scope => { st with selfSwitches := st.selfSwitches.put (scope, slot) value }

def setVariableAt (st : State) (scope : Option Scope) (slot : Slot) (value : Int) : State :=
  match scope with
  | none => { st with vars := st.vars.put slot value }
  | some scope => { st with selfVars := st.selfVars.put (scope, slot) value }

def switch (st : State) (scope : Option Scope) (slot : Slot) : Except NumeralFault Bool :=
  slot.normal.map (st.switchAt scope)

def reading (st : State) (scope : Option Scope) (slot : Slot) : Except NumeralFault Int :=
  slot.normal.map (st.variableAt scope)

/-- The size of the party's core; the whole party when none is stated. -/
def coreSize (st : State) : Int := st.coreSize?.getD st.party.length

end State
end DialogueMarkup
