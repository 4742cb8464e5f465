import DialogueMarkup.Document.Basic
import DialogueMarkup.State.Basic

/-!
States read from documents. Ids are numbers or numerals; a section that is absent, null, empty or
zero holds nothing; an entry of a self slot without a scope belongs to the current one.
-/
namespace DialogueMarkup
open Document

def Slot.ofDocument : Document → Except DataFault Slot
  | .text s => (Slot.ofText s).mapError .numeral
  | .codes points => .ok (.name (points.map Char.ofNat))
  | v => v.toInt.map .number

namespace State

/-- A field, or nothing when it counts as false. -/
def section? (fields : List (Document × Document)) (name : String) : Option Document :=
  (fieldOf? fields name.toList).filter Document.truth

def mapSection (fields : List (Document × Document)) (name : String) :
    Except DataFault (List (Document × Document)) :=
  match section? fields name with
  | none => .ok []
  | some v => v.toFields

def listSection (fields : List (Document × Document)) (name : String) :
    Except DataFault (List Document) :=
  match section? fields name with
  | none => .ok []
  | some v => v.toItems

def intField (fields : List (Document × Document)) (name : String) (absent : Document) :
    Except DataFault Int :=
  ((fieldOf? fields name.toList).getD absent).toInt

def intField? (fields : List (Document × Document)) (name : String) (absent : Document) :
    Except DataFault (Option Int) :=
  ((fieldOf? fields name.toList).getD absent).toInt?

def loadMember (v : Document) : Except DataFault Member := do
  let fields ← v.toFields
  let actor ← intField fields "actor" (.int 0)
  let role ← intField fields "class" (.int 0)
  let states ← ((fieldOf? fields "states".toList).getD (.list [])).toItems
  return ⟨actor, role, ← states.mapM Document.toInt⟩

/-- Global entries: the id is a number or a numeral. -/
def loadGlobals {υ : Type} (cast : Document → Except DataFault υ)
    (fields : List (Document × Document)) : Except DataFault (Table Slot υ) :=
  fields.foldlM (fun t f => do
    let id ← f.1.toInt
    return t.put (.number id) (← cast f.2)) []

/-- One entry of a self slot; `here` is the section of the current scope. -/
def loadSelf {υ : Type} (cast : Document → Except DataFault υ) (here : Document)
    (t : Table (Scope × Slot) υ) (v : Document) : Except DataFault (Table (Scope × Slot) υ) := do
  let fields ← v.toFields
  let here ← here.toFields
  let container ← intField fields "container"
    ((fieldOf? here "container".toList).getD (.int 1))
  let context ← intField? fields "context" ((fieldOf? here "context".toList).getD .null)
  match fieldOf? fields "slot".toList with
  | none => throw (.missingField "slot".toList)
  | some slot =>
    let slot ← Slot.ofDocument slot
    return t.put (⟨container, context⟩, slot)
      (← cast ((fieldOf? fields "value".toList).getD (.int 0)))

def loadNames (fields : List (Document × Document)) :
    Except DataFault (Table (List Char) Int) :=
  fields.foldlM (fun t f => do return t.put f.1.display (← f.2.toInt)) []

def ofDocument (v : Document) : Except DataFault State := do
  let fields ← v.toFields
  let here := (section? fields "current").getD (.object [])
  let truth (v : Document) : Except DataFault Bool := .ok v.truth
  let party ← (← listSection fields "party").mapM loadMember
  let switches ← loadGlobals truth (← mapSection fields "switches")
  let vars ← loadGlobals Document.toInt (← mapSection fields "variables")
  let selfSwitches ← (← listSection fields "self_switches").foldlM (loadSelf truth here) []
  let selfVars ←
    (← listSection fields "self_variables").foldlM (loadSelf Document.toInt here) []
  let coreSize? ← intField? fields "core_party_size" .null
  let here ← here.toFields
  let container ← intField here "container" (.int 1)
  let context ← intField? here "context" .null
  let containers ← loadNames (← mapSection fields "containers")
  let contexts ← loadNames (← mapSection fields "contexts")
  let crossContext := ((fieldOf? fields "cross_context".toList).getD (.bool true)).truth
  return { switches, vars, selfSwitches, selfVars, party, coreSize?
           current := ⟨container, context⟩, containers, contexts, crossContext }

def setSwitch (st : State) (scope : Option Scope) (slot value : Document) :
    Except DataFault State := do
  return st.setSwitchAt scope (← Slot.ofDocument slot) value.truth

def setVariable (st : State) (scope : Option Scope) (slot value : Document) :
    Except DataFault State := do
  let slot ← Slot.ofDocument slot
  return st.setVariableAt scope slot (← value.toInt)

end State
end DialogueMarkup
