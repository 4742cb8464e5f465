import DialogueMarkup.Proofs.Pieces
import DialogueMarkup.State.Loading

/-! States as the outcome of writes. A loaded state is what its entries write into an empty one, in
the order of the file; a call that sets a switch or a variable is one more write. What is read at
any spelling of a slot is the value of the last write to the same kind of value, of the same scope,
at a slot with the same normal form. -/
namespace DialogueMarkup
open Document Text

/-- A write of a switch or a variable, of a scope or global, at a slot in normal form. -/
inductive Write
  | switch (scope : Option Scope) (slot : Slot) (value : Bool)
  | var (scope : Option Scope) (slot : Slot) (value : Int)
  deriving DecidableEq, Repr

namespace Write

/-- What a write gives the switch of a scope and slot. -/
def switch? (scope : Option Scope) (slot : Slot) : Write → Option Bool
  | switch scope' slot' value => if scope' = scope ∧ slot' = slot then some value else none
  | var .. => none

/-- What a write gives the variable of a scope and slot. -/
def var? (scope : Option Scope) (slot : Slot) : Write → Option Int
  | switch .. => none
  | var scope' slot' value => if scope' = scope ∧ slot' = slot then some value else none

theorem switch?_eq_some {scope : Option Scope} {slot : Slot} {w : Write} {value : Bool} :
    w.switch? scope slot = some value ↔ w = .switch scope slot value := by
  cases w with
  | switch scope' slot' value' => simp [switch?, and_assoc]
  | var scope' slot' value' => simp [switch?]

theorem var?_eq_some {scope : Option Scope} {slot : Slot} {w : Write} {value : Int} :
    w.var? scope slot = some value ↔ w = .var scope slot value := by
  cases w with
  | switch scope' slot' value' => simp [var?]
  | var scope' slot' value' => simp [var?, and_assoc]

/-- What the last write to a switch gives it. -/
def lastSwitch (scope : Option Scope) (slot : Slot) (log : List Write) : Option Bool :=
  (log.filterMap (switch? scope slot)).getLast?

/-- What the last write to a variable gives it. -/
def lastVar (scope : Option Scope) (slot : Slot) (log : List Write) : Option Int :=
  (log.filterMap (var? scope slot)).getLast?

end Write

theorem Table.get?_put {κ υ : Type} [DecidableEq κ] (t : Table κ υ) (j k : κ) (v : υ) :
    (t.put k v).get? j = if k = j then some v else t.get? j := by
  split
  · next h =>
    subst h
    exact t.get?_put_self k v
  · next h => exact t.get?_put_of_ne v fun hjk => h hjk.symm

namespace State

section
variable (st : State) (w : Write) (scope : Option Scope) (slot : Slot)

/-- The state after a write. -/
def write : State → Write → State
  | st, .switch scope slot value => st.setSwitchAt scope slot value
  | st, .var scope slot value => st.setVariableAt scope slot value

/-- The state after some writes. -/
def writeAll (log : List Write) : State := log.foldl write st

/-! A write gives its own switch or variable a value and leaves every other one. -/

theorem switchAt_write :
    (st.write w).switchAt scope slot = (w.switch? scope slot).getD (st.switchAt scope slot) := by
  cases w with
  | var scope' slot' value => cases scope' <;> cases scope <;> rfl
  | switch scope' slot' value =>
    cases scope' <;> cases scope <;>
      simp only [write, setSwitchAt, switchAt, Write.switch?, Table.get?_put, Option.some.injEq,
        Prod.mk.injEq, reduceCtorEq, true_and, false_and, if_false, Option.getD_none] <;>
      split <;> rfl

theorem variableAt_write :
    (st.write w).variableAt scope slot = (w.var? scope slot).getD (st.variableAt scope slot) := by
  cases w with
  | switch scope' slot' value => cases scope' <;> cases scope <;> rfl
  | var scope' slot' value =>
    cases scope' <;> cases scope <;>
      simp only [write, setVariableAt, variableAt, Write.var?, Table.get?_put, Option.some.injEq,
        Prod.mk.injEq, reduceCtorEq, true_and, false_and, if_false, Option.getD_none] <;>
      split <;> rfl

/-- The state with no switch and no variable set. -/
def cleared : State := { st with switches := [], vars := [], selfSwitches := [], selfVars := [] }

/-- A write touches nothing but switches and variables. -/
theorem cleared_write : (st.write w).cleared = st.cleared := by
  cases w with
  | switch scope' slot' value => cases scope' <;> rfl
  | var scope' slot' value => cases scope' <;> rfl

end

section
variable (st : State) (log log' : List Write) (scope : Option Scope) (slot : Slot)

theorem writeAll_append : st.writeAll (log ++ log') = (st.writeAll log).writeAll log' :=
  List.foldl_append

/-- After some writes a switch has the value that the last write to it gave it. -/
theorem switchAt_writeAll : (st.writeAll log).switchAt scope slot =
    (Write.lastSwitch scope slot log).getD (st.switchAt scope slot) := by
  induction log generalizing st with
  | nil => rfl
  | cons w log ih =>
    have hrest : (st.writeAll (w :: log)).switchAt scope slot = _ := ih (st.write w)
    rw [hrest, switchAt_write, Write.lastSwitch, Write.lastSwitch, List.filterMap_cons]
    cases w.switch? scope slot with
    | none => rfl
    | some value => simp [List.getLast?_cons]

theorem variableAt_writeAll : (st.writeAll log).variableAt scope slot =
    (Write.lastVar scope slot log).getD (st.variableAt scope slot) := by
  induction log generalizing st with
  | nil => rfl
  | cons w log ih =>
    have hrest : (st.writeAll (w :: log)).variableAt scope slot = _ := ih (st.write w)
    rw [hrest, variableAt_write, Write.lastVar, Write.lastVar, List.filterMap_cons]
    cases w.var? scope slot with
    | none => rfl
    | some value => simp [List.getLast?_cons]

theorem cleared_writeAll : (st.writeAll log).cleared = st.cleared := by
  induction log generalizing st with
  | nil => rfl
  | cons w log ih => exact (ih (st.write w)).trans (cleared_write st w)

theorem current_writeAll : (st.writeAll log).current = st.current := by
  have hcleared : (st.writeAll log).cleared.current = st.cleared.current :=
    congrArg current (cleared_writeAll st log)
  exact hcleared

end

end State

/-- Computations that come to the same but for what is made of it at the end. -/
theorem bind_eq_map {ε α β γ : Type} {x : Except ε α} {f : α → Except ε γ} {f' : α → Except ε β}
    {g : β → γ} (h : ∀ a, f a = (f' a).map g) : (x >>= f) = (x >>= f').map g := by
  cases x with
  | error e => rfl
  | ok a => exact h a

/-- To do for each member of a list what can be done for it is to find out for all of them first. -/
theorem foldlM_map_eq {ε α β γ : Type} (f : α → Except ε γ) (g : β → γ → β) (xs : List α) (b : β) :
    xs.foldlM (fun b x => (f x).map (g b)) b = (xs.mapM f).map (·.foldl g b) := by
  induction xs generalizing b with
  | nil => rfl
  | cons x xs ih =>
    rw [List.foldlM_cons, List.mapM_cons]
    cases f x with
    | error fault => rfl
    | ok y =>
      have hrest := ih (g b y)
      simp only [Except.map, bind, Except.bind, pure, Except.pure] at hrest ⊢
      rw [hrest]
      cases xs.mapM f <;> rfl

/-! Calls, and the entries of a document, as writes. -/

/-- A slot as a value: a number or a text. -/
def Slot.document : Slot → Document
  | .number n => .int n
  | .name s => .text s

theorem Slot.ofDocument_document (slot : Slot) :
    ofDocument slot.document = slot.normal.mapError .numeral := by
  cases slot with
  | number n => rfl
  | name s => rfl

/-- A call that sets a switch or a variable at any spelling of a slot; values are as they are
given. -/
inductive Call
  | switch (scope : Option Scope) (slot : Slot) (value : Document)
  | var (scope : Option Scope) (slot : Slot) (value : Document)

namespace Call

/-- What a call writes. -/
def write : Call → Except DataFault Write
  | switch scope slot value => do
    return .switch scope (← slot.normal.mapError .numeral) value.truth
  | var scope slot value => do
    return .var scope (← slot.normal.mapError .numeral) (← value.toInt)

/-- The state after a call. -/
def run (st : State) : Call → Except DataFault State
  | switch scope slot value => st.setSwitch scope slot.document value
  | var scope slot value => st.setVariable scope slot.document value

theorem run_eq (st : State) (c : Call) : c.run st = c.write.map st.write := by
  cases c with
  | switch scope slot value =>
    rw [run, State.setSwitch, write, Slot.ofDocument_document]
    exact bind_eq_map fun key => rfl
  | var scope slot value =>
    rw [run, State.setVariable, write, Slot.ofDocument_document]
    exact bind_eq_map fun key => bind_eq_map fun n => rfl

theorem run_eq_ok {st : State} {c : Call} {w : Write} (h : c.write = .ok w) :
    c.run st = .ok (st.write w) := by
  rw [run_eq, h]
  rfl

/-- Calls that can be made leave the state after what they write. -/
theorem foldlM_run_eq_ok {st : State} {calls : List Call} {writes : List Write}
    (h : calls.mapM write = .ok writes) : calls.foldlM run st = .ok (st.writeAll writes) := by
  have hrun : run = fun st c => c.write.map st.write := by
    funext st c
    exact run_eq st c
  rw [hrun, foldlM_map_eq, h]
  rfl

end Call

namespace State

/-- A global entry: the slot is the integer of the key. -/
def globalEntry {υ : Type} (cast : Document → Except DataFault υ) (f : Document × Document) :
    Except DataFault (Slot × υ) := do
  let id ← f.1.toInt
  return (.number id, ← cast f.2)

/-- An entry of a self slot: the container and the context are its own, or those of the current
scope when it names none. -/
def selfEntry {υ : Type} (cast : Document → Except DataFault υ) (current : Scope) (v : Document) :
    Except DataFault ((Scope × Slot) × υ) := do
  let fields ← v.toFields
  let container ←
    ((fieldOf? fields "container".toList).map Document.toInt).getD (.ok current.container)
  let context ← ((fieldOf? fields "context".toList).map Document.toInt?).getD (.ok current.context)
  match fieldOf? fields "slot".toList with
  | none => throw (.missingField "slot".toList)
  | some slot =>
    let slot ← Slot.ofDocument slot
    return ((⟨container, context⟩, slot), ← cast ((fieldOf? fields "value".toList).getD (.int 0)))

/-- What the entries of the four sections write. -/
def sectionLog (switches : List (Slot × Bool)) (vars : List (Slot × Int))
    (selfSwitches : List ((Scope × Slot) × Bool)) (selfVars : List ((Scope × Slot) × Int)) :
    List Write :=
  switches.map (fun e => .switch none e.1 e.2) ++ vars.map (fun e => .var none e.1 e.2) ++
    selfSwitches.map (fun e => .switch (some e.1.1) e.1.2 e.2) ++
    selfVars.map (fun e => .var (some e.1.1) e.1.2 e.2)

/-- What the entries of a document write, each section in its order. -/
def loadedLog (current : Scope) (v : Document) : Except DataFault (List Write) := do
  let fields ← v.toFields
  let truth (v : Document) : Except DataFault Bool := .ok v.truth
  let switches ← (← mapSection fields "switches").mapM (globalEntry truth)
  let vars ← (← mapSection fields "variables").mapM (globalEntry Document.toInt)
  let selfSwitches ← (← listSection fields "self_switches").mapM (selfEntry truth current)
  let selfVars ← (← listSection fields "self_variables").mapM (selfEntry Document.toInt current)
  return sectionLog switches vars selfSwitches selfVars

/-! Tables filled from entries. -/

section
variable {υ : Type} {cast : Document → Except DataFault υ}

/-- A table filled with entries in their order. -/
def filled {κ υ : Type} [DecidableEq κ] (entries : List (κ × υ)) : Table κ υ :=
  entries.foldl (fun t e => t.put e.1 e.2) []

theorem loadGlobals_eq (fields : List (Document × Document)) :
    loadGlobals cast fields = (fields.mapM (globalEntry cast)).map filled := by
  have hstep (t : Table Slot υ) (f : Document × Document) : (do
      let id ← f.1.toInt
      return t.put (.number id) (← cast f.2)) =
        (globalEntry cast f).map fun e => t.put e.1 e.2 := by
    rw [globalEntry]
    exact bind_eq_map fun id => bind_eq_map fun value => rfl
  simp only [loadGlobals, hstep]
  exact foldlM_map_eq (globalEntry cast) (fun (t : Table Slot υ) e => t.put e.1 e.2) fields []

variable {container : Int} {context : Option Int} {here : Document}
  {fields : List (Document × Document)} (hhere : here.toFields = .ok fields)
  (hcontainer : intField fields "container" (.int 1) = .ok container)
  (hcontext : intField? fields "context" .null = .ok context)
include hhere hcontainer hcontext

/-- An entry of a self slot is loaded as it reads with the current scope of the document. -/
theorem loadSelf_eq (t : Table (Scope × Slot) υ) (v : Document) :
    loadSelf cast here t v =
      (selfEntry cast ⟨container, context⟩ v).map fun e => t.put e.1 e.2 := by
  have hown (own : List (Document × Document)) : intField own "container"
      ((fieldOf? fields "container".toList).getD (.int 1)) =
        ((fieldOf? own "container".toList).map Document.toInt).getD (.ok container) := by
    rw [intField]
    cases fieldOf? own "container".toList with
    | some d => rfl
    | none => exact hcontainer
  have hown? (own : List (Document × Document)) : intField? own "context"
      ((fieldOf? fields "context".toList).getD .null) =
        ((fieldOf? own "context".toList).map Document.toInt?).getD (.ok context) := by
    rw [intField?]
    cases fieldOf? own "context".toList with
    | some d => rfl
    | none => exact hcontext
  rw [loadSelf, selfEntry, hhere]
  refine bind_eq_map fun own => ?_
  show (intField own "container" _ >>= _) = _
  rw [hown]
  refine bind_eq_map fun container => ?_
  rw [hown?]
  refine bind_eq_map fun context => ?_
  cases fieldOf? own "slot".toList with
  | none => rfl
  | some slot => exact bind_eq_map fun slot => bind_eq_map fun value => rfl

theorem foldlM_loadSelf_eq (items : List Document) :
    items.foldlM (loadSelf cast here) [] =
      (items.mapM (selfEntry cast ⟨container, context⟩)).map filled := by
  have hstep : loadSelf cast here = fun (t : Table (Scope × Slot) υ) v =>
      (selfEntry cast ⟨container, context⟩ v).map fun e => t.put e.1 e.2 := by
    funext t v
    exact loadSelf_eq hhere hcontainer hcontext t v
  rw [hstep]
  exact foldlM_map_eq (selfEntry cast ⟨container, context⟩)
    (fun (t : Table (Scope × Slot) υ) e => t.put e.1 e.2) items []

end

/-! Writes that all go into one of the tables. -/

section
variable (st : State)

theorem writeAll_switches (entries : List (Slot × Bool)) :
    st.writeAll (entries.map fun e => .switch none e.1 e.2) =
      { st with switches := entries.foldl (fun t e => t.put e.1 e.2) st.switches } := by
  induction entries generalizing st with
  | nil => rfl
  | cons e entries ih => exact ih _

theorem writeAll_vars (entries : List (Slot × Int)) :
    st.writeAll (entries.map fun e => .var none e.1 e.2) =
      { st with vars := entries.foldl (fun t e => t.put e.1 e.2) st.vars } := by
  induction entries generalizing st with
  | nil => rfl
  | cons e entries ih => exact ih _

theorem writeAll_selfSwitches (entries : List ((Scope × Slot) × Bool)) :
    st.writeAll (entries.map fun e => .switch (some e.1.1) e.1.2 e.2) =
      { st with selfSwitches := entries.foldl (fun t e => t.put e.1 e.2) st.selfSwitches } := by
  induction entries generalizing st with
  | nil => rfl
  | cons e entries ih => exact ih _

theorem writeAll_selfVars (entries : List ((Scope × Slot) × Int)) :
    st.writeAll (entries.map fun e => .var (some e.1.1) e.1.2 e.2) =
      { st with selfVars := entries.foldl (fun t e => t.put e.1 e.2) st.selfVars } := by
  induction entries generalizing st with
  | nil => rfl
  | cons e entries ih => exact ih _

end

/-- A loaded state is what the entries of its document write into a state with nothing set. -/
theorem exists_loadedLog {v : Document} {st : State} (h : ofDocument v = .ok st) :
    ∃ log, loadedLog st.current v = .ok log ∧ st = st.cleared.writeAll log := by
  -- what loading goes through, section by section
  obtain ⟨fields, hfields, h⟩ := bind_eq_ok h
  obtain ⟨members, hmembers, h⟩ := bind_eq_ok h
  obtain ⟨party, -, h⟩ := bind_eq_ok h
  obtain ⟨switchFields, hswitchFields, h⟩ := bind_eq_ok h
  obtain ⟨switches, hswitches, h⟩ := bind_eq_ok h
  obtain ⟨varFields, hvarFields, h⟩ := bind_eq_ok h
  obtain ⟨vars, hvars, h⟩ := bind_eq_ok h
  obtain ⟨switchItems, hswitchItems, h⟩ := bind_eq_ok h
  obtain ⟨selfSwitches, hselfSwitches, h⟩ := bind_eq_ok h
  obtain ⟨varItems, hvarItems, h⟩ := bind_eq_ok h
  obtain ⟨selfVars, hselfVars, h⟩ := bind_eq_ok h
  obtain ⟨coreSize?, -, h⟩ := bind_eq_ok h
  obtain ⟨here, hhere, h⟩ := bind_eq_ok h
  obtain ⟨container, hcontainer, h⟩ := bind_eq_ok h
  obtain ⟨context, hcontext, h⟩ := bind_eq_ok h
  obtain ⟨containerFields, -, h⟩ := bind_eq_ok h
  obtain ⟨containers, -, h⟩ := bind_eq_ok h
  obtain ⟨contextFields, -, h⟩ := bind_eq_ok h
  obtain ⟨contexts, -, h⟩ := bind_eq_ok h
  -- entries are put into their tables one by one, so each table is filled from a log
  have hst := Except.ok.inj h
  have hcurrent : st.current = ⟨container, context⟩ := by rw [← hst]
  rw [loadGlobals_eq] at hswitches hvars
  rw [foldlM_loadSelf_eq hhere hcontainer hcontext]
    at hselfSwitches hselfVars
  obtain ⟨switchLog, hswitchLog, rfl⟩ := map_eq_ok hswitches
  obtain ⟨varLog, hvarLog, rfl⟩ := map_eq_ok hvars
  obtain ⟨selfSwitchLog, hselfSwitchLog, rfl⟩ := map_eq_ok hselfSwitches
  obtain ⟨selfVarLog, hselfVarLog, rfl⟩ := map_eq_ok hselfVars
  refine ⟨sectionLog switchLog varLog selfSwitchLog selfVarLog, ?_, ?_⟩
  · rw [hcurrent, loadedLog, hfields]
    simp only [bind, Except.bind, hswitchFields, hswitchLog, hvarFields, hvarLog, hswitchItems,
      hselfSwitchLog, hvarItems, hselfVarLog]
    rfl
  · rw [sectionLog, writeAll_append, writeAll_append, writeAll_append, writeAll_switches,
      writeAll_vars, writeAll_selfSwitches, writeAll_selfVars, ← hst]
    rfl

end State
end DialogueMarkup
