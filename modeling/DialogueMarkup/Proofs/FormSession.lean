import DialogueMarkup.Preview.Pane
import DialogueMarkup.Proofs.FormWrites
import DialogueMarkup.Proofs.ReadSet

/-! Sessions with the form of a preview. The form is applied to the state after every edit, so the
state stays in step with the toggles, and with the last content of every input that is an integer;
all that the form does not show is read as it was loaded. -/
namespace DialogueMarkup
open Text Markup

/-! The self switches that a summary lists are lettered ones. -/

namespace Summary
variable {m m' : Summary}

def Lettered (m : Summary) : Prop := ∀ slot ∈ m.selfSwitches, ∃ c ∈ selfLetters, slot = [c]

theorem Lettered.noteOperand (hm : m.Lettered) {operand : Operand}
    (h : ∀ ref ∈ operand.refs, ref.Lettered) : (m.noteOperand operand).Lettered := by
  cases operand with
  | constant n => exact hm
  | global kind id => cases kind <;> exact hm
  | self ref =>
    have href : ref.Lettered := h ref (List.mem_singleton_self ref)
    simp only [Summary.noteOperand]
    split
    · next slot hslot =>
      split
      · exact hm
      · intro other hother
        rcases mem_note.mp hother with hold | rfl
        · exact hm other hold
        · exact href _ hslot
    · exact hm

theorem Lettered.noteCondition (hm : m.Lettered) (head : Head) {c : Condition}
    (h : ∀ ref ∈ c.refs, ref.Lettered) : (m.noteCondition head c).Lettered := by
  have hoperand {operand : Operand} (hmem : operand ∈ c.operands) :
      ∀ ref ∈ operand.refs, ref.Lettered := fun ref href =>
    h ref (List.mem_flatMap.mpr ⟨operand, hmem, href⟩)
  cases c with
  | switch operand negated => exact hm.noteOperand (hoperand List.mem_cons_self)
  | compare left op right =>
    have hleft : (m.noteOperand left).Lettered := hm.noteOperand (hoperand List.mem_cons_self)
    exact hleft.noteOperand (hoperand (List.mem_cons_of_mem left List.mem_cons_self))
  | partySize op n core => exact hm
  | member whom what op n => exact hm

theorem Lettered.noteHead (hm : m.Lettered) {head : Head} (h : m.noteHead head = .ok m') :
    m'.Lettered := by
  have hparse := Condition.parse_readFrom head.opcode head.condition
  simp only [Summary.noteHead] at h
  split at h
  · next c hc =>
    cases h
    rw [hc] at hparse
    have hcounted : ({ m with
        directiveCount := m.directiveCount + 1
        opcodes := count head.opcode m.opcodes } : Summary).Lettered := hm
    exact hcounted.noteCondition head hparse.lettered
  · cases h
  · cases h
    exact hm

theorem lettered_of_ofText {escape : Char} {s : List Char} (h : ofText escape s = .ok m) :
    m.Lettered := by
  simp only [ofText] at h
  obtain ⟨n, hfold, hm⟩ := bind_eq_ok h
  cases hm
  have hempty : ({} : Summary).Lettered := fun slot hslot => by cases hslot
  have hn : n.Lettered :=
    foldlM_preserves (fun _ _ _ hlast hnext => Lettered.noteHead hlast hnext) hempty hfold
  exact hn

/-- Such a slot is in normal form. -/
theorem Lettered.normal (h : m.Lettered) {slot : List Char} (hslot : slot ∈ m.selfSwitches) :
    (Slot.name slot).normal = .ok (.name slot) := by
  obtain ⟨c, hc, rfl⟩ := h slot hslot
  simp only [selfLetters, List.mem_cons, List.not_mem_nil, or_false] at hc
  rcases hc with rfl | rfl | rfl | rfl <;> rfl

end Summary

/-! States that give the same answer to every read. -/

structure State.SameReads (a b : State) : Prop where
  switch : ∀ scope slot, a.switch scope slot = b.switch scope slot
  reading : ∀ scope slot, a.reading scope slot = b.reading scope slot
  cleared : a.cleared = b.cleared

namespace State.SameReads
variable {a b : State} (h : a.SameReads b)
include h

/-- They agree on whatever a summary lists. -/
theorem agree (m : Summary) (scope : Scope) : m.Agree scope a b := by
  have hcurrent : a.cleared.current = b.cleared.current := congrArg current h.cleared
  have hcross : a.cleared.crossContext = b.cleared.crossContext :=
    congrArg crossContext h.cleared
  have hcontainers : a.cleared.containers = b.cleared.containers := congrArg containers h.cleared
  have hcontexts : a.cleared.contexts = b.cleared.contexts := congrArg contexts h.cleared
  have hparty : a.cleared.party = b.cleared.party := congrArg party h.cleared
  have hsize : a.cleared.coreSize = b.cleared.coreSize := congrArg coreSize h.cleared
  refine ⟨hcurrent, hcross, fun name => ?_, fun name => ?_, fun _ _ => h.switch _ _,
    fun _ _ => h.reading _ _, fun _ _ => h.switch _ _,
    fun _ _ _ => ⟨h.switch _ _, h.reading _ _⟩, fun _ => ⟨hparty, hsize⟩⟩
  · exact congrArg (Table.get? · name) hcontainers
  · exact congrArg (Table.get? · name) hcontexts

theorem choose_eq (scope : Scope) : Expansion.choose a scope = Expansion.choose b scope := by
  funext d
  unfold Expansion.choose
  cases Condition.parse d.opcode d.condition with
  | error fault => rfl
  | ok c =>
    have hholds : c.holds a scope = c.holds b scope :=
      (h.agree (({} : Summary).noteCondition ⟨'\\', [], d.opcode, d.condition⟩ c) scope).holds_eq
    simp only [bind, Except.bind, hholds]

/-- So every text has the same outcome in both. -/
theorem render_eq (engine : Engine) (scope : Option Scope) (s : List Char) :
    { engine with state := a }.render scope s = { engine with state := b }.render scope s := by
  have hcurrent : a.current = b.current := (h.agree {} a.current).current
  have hdirectives (s : List Char) : { engine with state := a }.directives scope s =
      { engine with state := b }.directives scope s := by
    simp only [Engine.directives, Engine.scopeOr, Expansion.directives, hcurrent]
    exact Expansion.run_eq_of_choose_eq (h.choose_eq _) _ _ _ _
  exact ((Engine.outcomes_eq_of_directives_eq hdirectives rfl rfl).1 s).2.1

end State.SameReads

namespace Preview

/-! Sessions. -/

/-- A form, and the state that it is applied to. -/
structure Session where
  form : Form
  state : State
  deriving DecidableEq, Repr

namespace Session

/-- The session that a preview of a summary begins with. -/
def start (m : Summary) (st : State) : Session := ⟨Form.ofSummary m st, st⟩

/-- The session after an event, at the end of which the form is applied; none when the form does not
show what is set. -/
def step (s : Session) (event : Event) : Option Session :=
  (s.form.after? event).map fun form => ⟨form, form.applyTo s.state⟩

/-- The session after some events. -/
def run (s : Session) (events : List Event) : Option Session := events.foldlM step s

/-- A state in step with what the toggles and inputs of a form hold. -/
structure InStep (m : Summary) (v : Values) (st : State) : Prop where
  switches : ∀ id ∈ m.switches, st.switchAt none (.number id) = v.switch id
  selfSwitches : ∀ slot ∈ m.selfSwitches,
    st.switchAt (some st.current) (.name slot) = v.self slot
  vars : ∀ id ∈ m.vars, ∀ n, Form.inputValue? (v.var id) = some n →
    st.variableAt none (.number id) = n

/-- Two states that differ at most in what a summary lists. -/
structure Framed (m : Summary) (a b : State) : Prop where
  switches : ∀ scope slot, ¬ m.ListsSwitch a.current scope slot →
    b.switchAt scope slot = a.switchAt scope slot
  vars : ∀ scope slot, ¬ m.ListsVar scope slot → b.variableAt scope slot = a.variableAt scope slot
  cleared : b.cleared = a.cleared

variable {m : Summary} {v : Values} {st : State} {event : Event} {events : List Event}

theorem Framed.refl (m : Summary) (st : State) : Framed m st st :=
  ⟨fun _ _ _ => rfl, fun _ _ _ => rfl, rfl⟩

theorem Framed.current {a b : State} (h : Framed m a b) : b.current = a.current := by
  have hcleared : b.cleared.current = a.cleared.current := congrArg State.current h.cleared
  exact hcleared

theorem Framed.trans {a b c : State} (h : Framed m a b) (h' : Framed m b c) : Framed m a c where
  switches scope slot hnot := by
    rw [h'.switches scope slot (h.current ▸ hnot), h.switches scope slot hnot]
  vars scope slot hnot := by rw [h'.vars scope slot hnot, h.vars scope slot hnot]
  cleared := h'.cleared.trans h.cleared

theorem framed_applyTo (v : Values) (st : State) :
    Framed m st ((Form.holding m v).applyTo st) where
  switches _ _ h := Form.switchAt_applyTo_of_not v st h
  vars _ _ h := Form.variableAt_applyTo_of_not v st h
  cleared := Form.cleared_applyTo st _

/-- A form that is applied leaves the state in step. -/
theorem inStep_applyTo (v : Values) (st : State) :
    InStep m v ((Form.holding m v).applyTo st) where
  switches _ h := Form.switchAt_applyTo v st h
  selfSwitches slot h := by
    rw [(framed_applyTo v st).current]
    exact Form.selfSwitchAt_applyTo v st h
  vars id h n hn := by rw [Form.variableAt_applyTo v st h, hn, Option.getD_some]

/-- The integer that was put last into an input, if any was. -/
def lastTyped (id : Int) (events : List Event) : Option Int :=
  ((typed id events).filterMap Form.inputValue?).getLast?

/-- An event moves a variable to the integer that it puts into the input, if it does. -/
theorem variableAt_step (h : InStep m v st) {id : Int} (hid : id ∈ m.vars) (event : Event) :
    ((Form.holding m (v.after event)).applyTo st).variableAt none (.number id) =
      (lastTyped id [event]).getD (st.variableAt none (.number id)) := by
  have hkept : (Form.inputValue? (v.var id)).getD (st.variableAt none (.number id)) =
      st.variableAt none (.number id) := by
    cases hread : Form.inputValue? (v.var id) with
    | none => rfl
    | some n => exact (h.vars id hid n hread).symm
  rw [Form.variableAt_applyTo _ _ hid]
  cases event with
  | var id' text =>
    by_cases hsame : id' = id
    · subst hsame
      cases hread : Form.inputValue? text <;> simp [lastTyped, typed, Values.after, hread]
    · have hother : (v.after (.var id' text)).var id = v.var id := if_neg (Ne.symm hsame)
      rw [hother, hkept]
      simp [lastTyped, typed, hsame]
  | refresh | switch id' on | self slot on => exact hkept

theorem lastTyped_cons (id : Int) (event : Event) (events : List Event) (n : Int) :
    (lastTyped id (event :: events)).getD n =
      (lastTyped id events).getD ((lastTyped id [event]).getD n) := by
  have happend : typed id (event :: events) = typed id [event] ++ typed id events :=
    List.filterMap_append (l := [event])
  have hlast : lastTyped id (event :: events) =
      (lastTyped id events).or (lastTyped id [event]) := by
    rw [lastTyped, happend, List.filterMap_append, List.getLast?_append]
    rfl
  rw [hlast]
  cases lastTyped id events <;> rfl

/-- Any number of events leaves the state in step with the form, moves every variable to the last
integer that was put into its input, and leaves what is not listed as it was. -/
theorem run_holding (h : InStep m v st) (hlisted : ∀ event ∈ events, event.Listed m) :
    ∃ st', run ⟨Form.holding m v, st⟩ events =
        some ⟨Form.holding m (events.foldl Values.after v), st'⟩ ∧
      InStep m (events.foldl Values.after v) st' ∧ Framed m st st' ∧
      ∀ id ∈ m.vars, st'.variableAt none (.number id) =
        (lastTyped id events).getD (st.variableAt none (.number id)) := by
  -- along the events: whatever state the form is applied to is in step with it afterwards
  induction events generalizing v st with
  | nil => exact ⟨st, rfl, h, .refl m st, fun _ _ => rfl⟩
  | cons event events ih =>
    obtain ⟨hevent, hevents⟩ := List.forall_mem_cons.mp hlisted
    have hstep : step ⟨Form.holding m v, st⟩ event =
        some ⟨Form.holding m (v.after event), (Form.holding m (v.after event)).applyTo st⟩ := by
      rw [step, Form.after?_holding hevent]
      rfl
    obtain ⟨st', hrun, hinStep, hframed, hvars⟩ :=
      ih (inStep_applyTo (v.after event) st) hevents
    refine ⟨st', ?_, hinStep, (framed_applyTo _ st).trans hframed, fun id hid => ?_⟩
    · rw [run, List.foldlM_cons, hstep]
      exact hrun
    · rw [hvars id hid, variableAt_step h hid, ← lastTyped_cons]

/-- A loaded state is in step with the form that is made of it, as integers that are short enough
are read back from the inputs. -/
theorem inStep_ofState
    (hshort : ∀ id ∈ m.vars, (st.variableAt none (.number id)).natAbs < 10 ^ Numeral.maxDigits) :
    InStep m (Values.ofState st) st where
  switches _ _ := rfl
  selfSwitches _ _ := rfl
  vars id hid n hn := by
    have hread : Form.inputValue? ((Values.ofState st).var id) =
        some (st.variableAt none (.number id)) := inputValue?_write (hshort id hid)
    rw [hread] at hn
    exact Option.some.inj hn

/-- Events that set nothing leave the values as they are. -/
theorem foldl_after_of_refresh (h : ∀ event ∈ events, event = .refresh) (v : Values) :
    events.foldl Values.after v = v := by
  induction events with
  | nil => rfl
  | cons event events ih =>
    obtain ⟨rfl, hevents⟩ := List.forall_mem_cons.mp h
    exact ih hevents

theorem lastTyped_of_refresh (h : ∀ event ∈ events, event = .refresh) (id : Int) :
    lastTyped id events = none := by
  have hnone : typed id events = [] := by
    apply List.filterMap_eq_nil_iff.mpr
    intro event hevent
    rw [h event hevent]
  rw [lastTyped, hnone]
  rfl

/-- What is not set reads as before, at any spelling of a slot. -/
theorem Framed.switch_eq {a b : State} (h : Framed m a b) {scope : Option Scope} {slot key : Slot}
    (hkey : slot.normal = .ok key) (hnot : ¬ m.ListsSwitch a.current scope key) :
    b.switch scope slot = a.switch scope slot := by
  rw [State.switch, State.switch, hkey]
  exact congrArg Except.ok (h.switches scope key hnot)

theorem Framed.reading_eq {a b : State} (h : Framed m a b) {scope : Option Scope} {slot key : Slot}
    (hkey : slot.normal = .ok key) (hnot : ¬ m.ListsVar scope key) :
    b.reading scope slot = a.reading scope slot := by
  rw [State.reading, State.reading, hkey]
  exact congrArg Except.ok (h.vars scope key hnot)

/-- A state in step with the values of another one, and like it in all that is not listed, is read
like it if the listed variables are. -/
theorem Framed.sameReads {a b : State} (h : Framed m a b) (hstep : InStep m (.ofState a) b)
    (hvars : ∀ id ∈ m.vars, b.variableAt none (.number id) = a.variableAt none (.number id)) :
    b.SameReads a where
  switch scope slot := by
    rw [State.switch, State.switch]
    congr 1
    funext key
    -- what is listed is in step, and nothing else was written
    by_cases hlisted : m.ListsSwitch a.current scope key
    · rcases scope with _ | scope <;> rcases key with id | name
      · exact hstep.switches id hlisted
      · exact hlisted.elim
      · exact hlisted.elim
      · obtain ⟨rfl, hname⟩ := hlisted
        have hself := hstep.selfSwitches name hname
        rw [h.current] at hself
        exact hself
    · exact h.switches scope key hlisted
  reading scope slot := by
    rw [State.reading, State.reading]
    congr 1
    funext key
    by_cases hlisted : m.ListsVar scope key
    · rcases scope with _ | scope <;> rcases key with id | name
      · exact hvars id hlisted
      · exact hlisted.elim
      · exact hlisted.elim
      · exact hlisted.elim
    · exact h.vars scope key hlisted
  cleared := h.cleared

/-- A session with a form. Whatever is set in the form of a text that was scanned, and however often
the form is applied, it shows what the summary lists, every toggle holds what it was set to last,
and the state is in step: listed switches read as their toggles, a listed variable as the last
content of its input that is an integer, the first content being the loaded value, and everything
else as it was loaded. While nothing is set, every text is displayed as in the loaded state. -/
theorem run_reads {escape : Char} {text : List Char} (hm : Summary.ofText escape text = .ok m)
    (st : State)
    (hshort : ∀ id ∈ m.vars, (st.variableAt none (.number id)).natAbs < 10 ^ Numeral.maxDigits)
    (hlisted : ∀ event ∈ events, event.Listed m) :
    ∃ s, (start m st).run events = some s ∧
      s.form.switches.map Prod.fst = m.switches ∧
      s.form.selfSwitches.map Prod.fst = m.selfSwitches ∧
      (∀ e ∈ s.form.switches, s.state.switch none (.number e.1) = .ok e.2 ∧
        e.2 = (toggled e.1 events).getLast?.getD (st.switchAt none (.number e.1))) ∧
      (∀ e ∈ s.form.selfSwitches, s.state.switch (some st.current) (.name e.1) = .ok e.2 ∧
        e.2 = (selfToggled e.1 events).getLast?.getD
          (st.switchAt (some st.current) (.name e.1))) ∧
      (∀ id ∈ m.vars, ∃ n, s.state.reading none (.number id) = .ok n ∧
        ((Numeral.write (st.variableAt none (.number id)) :: typed id events).filterMap
          Form.inputValue?).getLast? = some n) ∧
      (∀ scope (slot key : Slot), slot.normal = .ok key →
        (¬ m.ListsSwitch st.current scope key →
          s.state.switch scope slot = st.switch scope slot) ∧
        (¬ m.ListsVar scope key → s.state.reading scope slot = st.reading scope slot)) ∧
      s.state.cleared = st.cleared ∧
      ((∀ event ∈ events, event = .refresh) →
        (∀ scope slot, s.state.switch scope slot = st.switch scope slot ∧
          s.state.reading scope slot = st.reading scope slot) ∧
        ∀ (engine : Engine) scope source,
          { engine with state := s.state }.render scope source =
            { engine with state := st }.render scope source ∧
          Pane.ofText { engine with state := s.state } source =
            Pane.ofText { engine with state := st } source) := by
  obtain ⟨st', hrun, hstep, hframed, hvars⟩ := run_holding (inStep_ofState hshort) hlisted
  refine ⟨⟨Form.holding m (events.foldl Values.after (.ofState st)), st'⟩, hrun, ?_, ?_, ?_, ?_, ?_,
    fun scope slot key hkey => ⟨hframed.switch_eq hkey, hframed.reading_eq hkey⟩,
    hframed.cleared, ?_⟩
  · simp [Form.holding, Function.comp_def]
  · simp [Form.holding, Function.comp_def]
  · intro e he
    obtain ⟨id, hid, rfl⟩ := List.mem_map.mp he
    exact ⟨congrArg Except.ok (hstep.switches id hid), Values.switch_foldl_after _ _ _⟩
  · -- a listed self switch is a lettered one, which is read as it is written
    intro e he
    obtain ⟨slot, hslot, rfl⟩ := List.mem_map.mp he
    have hself := hstep.selfSwitches slot hslot
    rw [hframed.current] at hself
    refine ⟨?_, Values.self_foldl_after _ _ _⟩
    rw [State.switch, (Summary.lettered_of_ofText hm).normal hslot]
    exact congrArg Except.ok hself
  · intro id hid
    refine ⟨_, congrArg Except.ok (hvars id hid), ?_⟩
    rw [List.filterMap_cons_some (inputValue?_write (hshort id hid)), List.getLast?_cons]
    rfl
  · intro hrefresh
    -- what is written back is what was read, so the two states cannot be told apart
    have hsame : State.SameReads st' st := by
      refine hframed.sameReads ?_ fun id hid => ?_
      · rw [foldl_after_of_refresh hrefresh] at hstep
        exact hstep
      · rw [hvars id hid, lastTyped_of_refresh hrefresh, Option.getD_none]
    refine ⟨fun scope slot => ⟨hsame.switch scope slot, hsame.reading scope slot⟩, ?_⟩
    intro engine scope source
    refine ⟨hsame.render_eq engine scope source, ?_⟩
    rw [Pane.ofText, Pane.ofText, hsame.render_eq engine none source]

/-- The summary of a text that asks for a switch, a self switch and a variable. -/
def listing : Summary where
  directiveCount := 3
  opcodes := [(.on, 2), (.ov, 1)]
  switches := [2].mergeSort (· ≤ ·)
  vars := [3].mergeSort (· ≤ ·)
  selfSwitches := [['A']]

/-- A number is replaced, the next content is no number, and both kinds of toggles are set. -/
theorem run_reads_listing :
    ∃ s, (start listing { vars := [(.number 3, -7)], switches := [(.number 9, true)] }).run
        [.refresh, .var 3 "12".toList, .var 3 "1x".toList, .switch 2 true, .self ['A'] true] =
          some s ∧
      s.state.reading none (.number 3) = .ok 12 ∧
      s.state.switch none (.name "9".toList) = .ok true ∧ s.state.cleared = {} := by
  have hscan : Summary.ofText '\\'
      "\\ON[2]\x7bx\x7d\\ON[a]\x7by\x7d\\OV[3>4]\x7bz\x7d".toList = .ok listing := rfl
  have hswitch : (2 : Int) ∈ listing.switches := List.mem_mergeSort.mpr (by decide)
  have hvar (id : Int) : id ∈ listing.vars ↔ id = 3 := by
    rw [listing, List.mem_mergeSort, List.mem_singleton]
  have hshort : ∀ id ∈ listing.vars,
      (State.variableAt { vars := [(.number 3, -7)], switches := [(.number 9, true)] } none
        (.number id)).natAbs < 10 ^ Numeral.maxDigits := by
    intro id hid
    rw [(hvar id).mp hid]
    calc (7 : Nat) < 10 ^ 1 := by decide
      _ ≤ 10 ^ Numeral.maxDigits := Nat.pow_le_pow_right (by decide) (by decide)
  have hlisted : ∀ event ∈ [Event.refresh, .var 3 "12".toList, .var 3 "1x".toList, .switch 2 true,
      .self ['A'] true], event.Listed listing := by
    simp only [List.forall_mem_cons]
    exact ⟨trivial, (hvar 3).mpr rfl, (hvar 3).mpr rfl, hswitch, List.mem_cons_self,
      fun _ h => by cases h⟩
  obtain ⟨s, hrun, -, -, -, -, hvars, hframe, hcleared, -⟩ := run_reads hscan _ hshort hlisted
  obtain ⟨n, hn, hlast⟩ := hvars 3 ((hvar 3).mpr rfl)
  have hnine : (9 : Int) ∉ listing.switches := by
    rw [listing, List.mem_mergeSort]
    decide
  cases hlast
  exact ⟨s, hrun, hn, (hframe none (.name "9".toList) (.number 9) rfl).1 hnine, hcleared⟩

end Session
end Preview
end DialogueMarkup
