import DialogueMarkup.Preview.Form
import DialogueMarkup.Proofs.Decimals
import DialogueMarkup.Proofs.Writes

/-! What the form of a preview writes. Its toggles and inputs hold values, and to apply it is to
write these: a toggle gives its switch the value it holds, an input gives its variable the integer
it holds, if it holds one, and nothing else is written. -/
namespace DialogueMarkup
open Text

namespace Summary

/-- The switch of a scope and slot is one that a summary lists, seen from the current scope. -/
def ListsSwitch (m : Summary) (current : Scope) : Option Scope → Slot → Prop
  | none, .number id => id ∈ m.switches
  | some scope, .name slot => scope = current ∧ slot ∈ m.selfSwitches
  | _, _ => False

/-- The variable of a scope and slot is one that a summary lists. -/
def ListsVar (m : Summary) : Option Scope → Slot → Prop
  | none, .number id => id ∈ m.vars
  | _, _ => False

end Summary

/-- The last value among members that have no value but one. -/
theorem getLast?_filterMap_eq {α β : Type} {f : α → Option β} {xs : List α} {y? : Option β}
    (hmem : ∀ y, y? = some y → ∃ x ∈ xs, f x = some y)
    (hsame : ∀ x ∈ xs, ∀ y, f x = some y → y? = some y) : (xs.filterMap f).getLast? = y? := by
  cases hlast : (xs.filterMap f).getLast? with
  | some y =>
    obtain ⟨x, hx, hy⟩ := List.mem_filterMap.mp (List.mem_of_getLast? hlast)
    exact (hsame x hx y hy).symm
  | none =>
    have hnil : xs.filterMap f = [] := List.getLast?_eq_none_iff.mp hlast
    cases hy : y? with
    | none => rfl
    | some y =>
      obtain ⟨x, hx, hfx⟩ := hmem y hy
      have hnone := List.filterMap_eq_nil_iff.mp hnil x hx
      rw [hfx] at hnone
      cases hnone

/-! What a form shows and what it writes. -/

namespace Preview

/-- What happens in a preview: the form is applied as it stands, as when the preview opens, or a
toggle or an input is set first. -/
inductive Event
  | refresh
  | switch (id : Int) (on : Bool)
  | self (slot : List Char) (on : Bool)
  | var (id : Int) (text : List Char)
  deriving DecidableEq, Repr

/-- The summary lists what is set. -/
def Event.Listed (m : Summary) : Event → Prop
  | refresh => True
  | switch id _ => id ∈ m.switches
  | self slot _ => slot ∈ m.selfSwitches
  | var id _ => id ∈ m.vars

/-- What the toggle of a switch is set to, in order. -/
def toggled (id : Int) (events : List Event) : List Bool :=
  events.filterMap fun
    | .switch id' on => if id' = id then some on else none
    | _ => none

/-- What the toggle of a self switch is set to, in order. -/
def selfToggled (slot : List Char) (events : List Event) : List Bool :=
  events.filterMap fun
    | .self slot' on => if slot' = slot then some on else none
    | _ => none

/-- What is put into the input of a variable, in order. -/
def typed (id : Int) (events : List Event) : List (List Char) :=
  events.filterMap fun
    | .var id' text => if id' = id then some text else none
    | _ => none

/-- What toggles and inputs hold. -/
structure Values where
  switch : Int → Bool
  self : List Char → Bool
  var : Int → List Char

namespace Values

/-- The values of a state. -/
def ofState (st : State) : Values where
  switch id := st.switchAt none (.number id)
  self slot := st.switchAt (some st.current) (.name slot)
  var id := Numeral.write (st.variableAt none (.number id))

def after (v : Values) : Event → Values
  | .refresh => v
  | .switch id on => { v with switch := fun id' => if id' = id then on else v.switch id' }
  | .self slot on => { v with self := fun slot' => if slot' = slot then on else v.self slot' }
  | .var id text => { v with var := fun id' => if id' = id then text else v.var id' }

end Values

namespace Form

/-- The form for a summary whose toggles and inputs hold given values. -/
def holding (m : Summary) (v : Values) : Form where
  switches := m.switches.map fun id => (id, v.switch id)
  selfSwitches := m.selfSwitches.map fun slot => (slot, v.self slot)
  vars := m.vars.map fun id => (id, v.var id)

/-- The form after something was set; none when it does not show it. -/
def after? (f : Form) : Event → Option Form
  | .refresh => some f
  | .switch id on => f.setSwitch? id on
  | .self slot on => f.setSelf? slot on
  | .var id text => f.setVariable? id text

theorem replace?_map {κ υ : Type} [DecidableEq κ] {keys : List κ} {k : κ} (hk : k ∈ keys)
    (value : κ → υ) (v : υ) : replace? (keys.map fun k => (k, value k)) k v =
      some (keys.map fun k' => (k', if k' = k then v else value k')) := by
  have hany : (keys.map fun k => (k, value k)).any (·.1 = k) = true := by simpa using hk
  rw [replace?, if_pos hany, List.map_map]
  congr 1
  apply List.map_congr_left
  intro k' _
  by_cases h : k' = k
  · simp [h]
  · simp [h]

theorem after?_holding {m : Summary} {event : Event} (h : event.Listed m) (v : Values) :
    (holding m v).after? event = some (holding m (v.after event)) := by
  cases event with
  | refresh => rfl
  | switch id on => simp only [after?, setSwitch?, holding, replace?_map h, Option.map]; rfl
  | self slot on => simp only [after?, setSelf?, holding, replace?_map h, Option.map]; rfl
  | var id text => simp only [after?, setVariable?, holding, replace?_map h, Option.map]; rfl

/-- What a form writes. -/
def log (f : Form) (current : Scope) : List Write :=
  f.switches.map (fun e => .switch none (.number e.1) e.2) ++
    f.selfSwitches.map (fun e => .switch (some current) (.name e.1) e.2) ++
    f.vars.filterMap fun e => (inputValue? e.2).map (.var none (.number e.1))

theorem applyTo_eq (f : Form) (st : State) : f.applyTo st = st.writeAll (f.log st.current) := by
  -- toggles leave the current scope as it is
  have hself (st : State) : f.selfSwitches.foldl
      (fun st e => st.setSwitchAt (some st.current) (.name e.1) e.2) st =
        st.writeAll (f.selfSwitches.map fun e => .switch (some st.current) (.name e.1) e.2) := by
    induction f.selfSwitches generalizing st with
    | nil => rfl
    | cons e entries ih => exact ih _
  have hswitches : f.switches.foldl (fun st e => st.setSwitchAt none (.number e.1) e.2) st =
      st.writeAll (f.switches.map fun e => .switch none (.number e.1) e.2) := by
    rw [State.writeAll, List.foldl_map]
    rfl
  have hcurrent : (st.writeAll (f.switches.map fun e => .switch none (.number e.1) e.2)).current =
      st.current := State.current_writeAll st _
  rw [log, State.writeAll_append, State.writeAll_append, applyTo]
  simp only [hswitches, hself, hcurrent]
  generalize State.writeAll _ (f.selfSwitches.map _) = st
  induction f.vars generalizing st with
  | nil => rfl
  | cons e entries ih =>
    rw [List.foldl_cons, List.filterMap_cons]
    cases inputValue? e.2 with
    | none => exact ih st
    | some n => exact ih _

variable {m : Summary} {v : Values} {current : Scope} {w : Write}

/-- What a form writes, one by one. -/
theorem mem_log_holding : w ∈ (holding m v).log current ↔
    (∃ id ∈ m.switches, w = .switch none (.number id) (v.switch id)) ∨
    (∃ slot ∈ m.selfSwitches, w = .switch (some current) (.name slot) (v.self slot)) ∨
    ∃ id ∈ m.vars, ∃ n, inputValue? (v.var id) = some n ∧ w = .var none (.number id) n := by
  simp only [log, holding, List.mem_append, List.mem_map, List.mem_filterMap, or_assoc,
    Option.map_eq_some_iff, exists_exists_and_eq_and, eq_comm (a := w)]

/-! What is read after a form was applied. -/

section
variable (st : State) (v)

theorem switchAt_applyTo {id : Int} (h : id ∈ m.switches) :
    ((holding m v).applyTo st).switchAt none (.number id) = v.switch id := by
  have hlast : Write.lastSwitch none (.number id) ((holding m v).log st.current) =
      some (v.switch id) := by
    refine getLast?_filterMap_eq (fun on hon => ?_) fun w hw on hon => ?_
    · cases hon
      exact ⟨_, mem_log_holding.mpr (Or.inl ⟨id, h, rfl⟩), Write.switch?_eq_some.mpr rfl⟩
    · rw [Write.switch?_eq_some] at hon
      subst hon
      rcases mem_log_holding.mp hw with ⟨id', -, hw⟩ | ⟨slot, -, hw⟩ | ⟨id', -, n, -, hw⟩ <;>
        cases hw
      rfl
  rw [applyTo_eq, State.switchAt_writeAll, hlast, Option.getD_some]

theorem selfSwitchAt_applyTo {slot : List Char} (h : slot ∈ m.selfSwitches) :
    ((holding m v).applyTo st).switchAt (some st.current) (.name slot) = v.self slot := by
  have hlast : Write.lastSwitch (some st.current) (.name slot) ((holding m v).log st.current) =
      some (v.self slot) := by
    refine getLast?_filterMap_eq (fun on hon => ?_) fun w hw on hon => ?_
    · cases hon
      exact ⟨_, mem_log_holding.mpr (Or.inr (Or.inl ⟨slot, h, rfl⟩)),
        Write.switch?_eq_some.mpr rfl⟩
    · rw [Write.switch?_eq_some] at hon
      subst hon
      rcases mem_log_holding.mp hw with ⟨id, -, hw⟩ | ⟨slot', -, hw⟩ | ⟨id, -, n, -, hw⟩ <;>
        cases hw
      rfl
  rw [applyTo_eq, State.switchAt_writeAll, hlast, Option.getD_some]

/-- An input that holds no integer leaves its variable as it was. -/
theorem variableAt_applyTo {id : Int} (h : id ∈ m.vars) :
    ((holding m v).applyTo st).variableAt none (.number id) =
      (inputValue? (v.var id)).getD (st.variableAt none (.number id)) := by
  have hlast : Write.lastVar none (.number id) ((holding m v).log st.current) =
      inputValue? (v.var id) := by
    refine getLast?_filterMap_eq (fun n hn => ?_) fun w hw n hn => ?_
    · exact ⟨_, mem_log_holding.mpr (Or.inr (Or.inr ⟨id, h, n, hn, rfl⟩)),
        Write.var?_eq_some.mpr rfl⟩
    · rw [Write.var?_eq_some] at hn
      subst hn
      rcases mem_log_holding.mp hw with ⟨id', -, hw⟩ | ⟨slot, -, hw⟩ | ⟨id', -, k, hk, hw⟩ <;>
        cases hw
      exact hk
  rw [applyTo_eq, State.variableAt_writeAll, hlast]

theorem switchAt_applyTo_of_not {scope : Option Scope} {slot : Slot}
    (h : ¬ m.ListsSwitch st.current scope slot) :
    ((holding m v).applyTo st).switchAt scope slot = st.switchAt scope slot := by
  have hlast : Write.lastSwitch scope slot ((holding m v).log st.current) = none := by
    -- a write to the slot would be one of a toggle, whose slot is listed
    refine getLast?_filterMap_eq (fun _ hnone => by cases hnone) fun w hw on hon => ?_
    rw [Write.switch?_eq_some] at hon
    subst hon
    rcases mem_log_holding.mp hw with ⟨id, hid, hw⟩ | ⟨name, hname, hw⟩ | ⟨id, -, n, -, hw⟩ <;>
      cases hw
    · exact absurd hid h
    · exact absurd ⟨rfl, hname⟩ h
  rw [applyTo_eq, State.switchAt_writeAll, hlast, Option.getD_none]

theorem variableAt_applyTo_of_not {scope : Option Scope} {slot : Slot}
    (h : ¬ m.ListsVar scope slot) :
    ((holding m v).applyTo st).variableAt scope slot = st.variableAt scope slot := by
  have hlast : Write.lastVar scope slot ((holding m v).log st.current) = none := by
    refine getLast?_filterMap_eq (fun _ hnone => by cases hnone) fun w hw n hn => ?_
    rw [Write.var?_eq_some] at hn
    subst hn
    rcases mem_log_holding.mp hw with ⟨id, -, hw⟩ | ⟨name, -, hw⟩ | ⟨id, hid, k, -, hw⟩ <;> cases hw
    exact absurd hid h
  rw [applyTo_eq, State.variableAt_writeAll, hlast, Option.getD_none]

theorem cleared_applyTo (f : Form) : (f.applyTo st).cleared = st.cleared := by
  rw [applyTo_eq, State.cleared_writeAll]

end
end Form

/-! Values after any number of events: what was set last. -/

namespace Values

/-- A value that an event sets or leaves as it is ends as it was set last. -/
theorem foldl_after_eq {α : Type} (value : Values → α) {set? : Event → Option α}
    (h : ∀ v event, value (v.after event) = (set? event).getD (value v)) (v : Values)
    (events : List Event) :
    value (events.foldl after v) = (events.filterMap set?).getLast?.getD (value v) := by
  induction events generalizing v with
  | nil => rfl
  | cons event events ih =>
    rw [List.foldl_cons, ih, h, List.filterMap_cons]
    cases set? event with
    | none => rfl
    | some a =>
      rw [List.getLast?_cons]
      rfl

variable (v : Values) (events : List Event)

theorem switch_foldl_after (id : Int) :
    (events.foldl after v).switch id = (toggled id events).getLast?.getD (v.switch id) := by
  rw [toggled]
  refine foldl_after_eq (fun v => v.switch id) (fun v event => ?_) v events
  cases event with
  | switch id' on =>
    by_cases h : id' = id
    · simp [h, after]
    · simp [h, after, Ne.symm h]
  | refresh | self slot on | var id' text => rfl

theorem self_foldl_after (slot : List Char) :
    (events.foldl after v).self slot = (selfToggled slot events).getLast?.getD (v.self slot) := by
  rw [selfToggled]
  refine foldl_after_eq (fun v => v.self slot) (fun v event => ?_) v events
  cases event with
  | self slot' on =>
    by_cases h : slot' = slot
    · simp [h, after]
    · simp [h, after, Ne.symm h]
  | refresh | switch id on | var id text => rfl

end Values

/-- The initial content of an input stands for the integer it was made of. -/
theorem inputValue?_write {n : Int} (h : n.natAbs < 10 ^ Numeral.maxDigits) :
    Form.inputValue? (Numeral.write n) = some n := by
  have hne : (Numeral.write n).isEmpty = false := by
    unfold Numeral.write
    split
    · rfl
    · simp [Numeral.writeNat, Nat.toDigits_ne_nil]
  rw [Form.inputValue?, hne, Numeral.read_write h]
  rfl

end Preview
end DialogueMarkup
