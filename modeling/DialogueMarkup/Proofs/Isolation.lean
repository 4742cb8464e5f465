import DialogueMarkup.Proofs.ReadSet

/-! A host that cannot reach beyond the current scope is not reached beyond it: two states without
the capability that agree on the globals, the party and the lettered switches of one scope cannot be
told apart by any text seen from that scope, whatever they hold elsewhere. -/
namespace DialogueMarkup
open Text Markup

/-- Two states that cannot reach other scopes agree, seen from one scope, on all that is left. -/
structure State.AgreeInside (scope : Scope) (a b : State) : Prop where
  closed : a.crossContext = false ∧ b.crossContext = false
  current : a.current = b.current
  switches : ∀ id, a.switch none (.number id) = b.switch none (.number id)
  vars : ∀ id, a.reading none (.number id) = b.reading none (.number id)
  party : a.party = b.party
  coreSize : a.coreSize = b.coreSize
  letters : ∀ c ∈ selfLetters,
    a.switch (some scope) (.name [c]) = b.switch (some scope) (.name [c])

namespace SelfRef
variable {ref : SelfRef}

/-- Without the capability a reference that needs it fails, before any of its names is looked up. -/
theorem scope_of_needsCrossContext (h : ref.needsCrossContext = true) {st : State}
    (hclosed : st.crossContext = false) (current : Scope) : ref.scope st current =
      .error (.crossContext (if ref.text.isEmpty then ref.slot.text else ref.text)) := by
  simp only [scope, h, hclosed]
  rfl

/-- One that does not need it has a slot that is named. -/
theorem exists_name_of_not_needsCrossContext (h : ref.needsCrossContext = false) :
    ∃ name, ref.slot = .name name := by
  cases hslot : ref.slot with
  | name s => exact ⟨s, rfl⟩
  | number n => simp [needsCrossContext, hslot] at h

end SelfRef

namespace State.AgreeInside
variable {scope : Scope} {a b : State} (h : AgreeInside scope a b)
include h

/-- A reference to a lettered slot, or to one out of reach, means the same. -/
theorem self_value_eq {ref : SelfRef} (hlettered : ref.Lettered) :
    (Operand.self ref).value a scope = (Operand.self ref).value b scope := by
  cases hneeds : ref.needsCrossContext with
  | true =>
    have hfails {st : State} (hst : st.crossContext = false) :
        (Operand.self ref).value st scope =
          .error (.crossContext (if ref.text.isEmpty then ref.slot.text else ref.text)) := by
      simp only [Operand.value, SelfRef.scope_of_needsCrossContext hneeds hst]
      rfl
    rw [hfails h.closed.1, hfails h.closed.2]
  | false =>
    obtain ⟨name, hname⟩ := SelfRef.exists_name_of_not_needsCrossContext hneeds
    obtain ⟨c, hc, rfl⟩ := hlettered name hname
    have hkind := (SelfRef.plain_of_not_needsCrossContext hneeds).1
    have hread (st : State) : (Operand.self ref).value st scope =
        Kind.switch.read st (some scope) (.name [c]) := by
      simp only [Operand.value, SelfRef.scope_of_not_needsCrossContext hneeds, hkind, hname]
      rfl
    rw [hread, hread]
    simp only [Kind.read, h.letters c hc]

theorem value_eq {operand : Operand} (hlettered : ∀ ref ∈ operand.refs, ref.Lettered) :
    operand.value a scope = operand.value b scope := by
  cases operand with
  | constant n => rfl
  | global kind id =>
    rcases kind with _ | _
    · simp only [Operand.value, Kind.read, h.switches]
    · simp only [Operand.value, Kind.read, h.vars]
  | self ref => exact h.self_value_eq (hlettered ref (List.mem_singleton_self ref))

theorem holds_eq {c : Condition} (hlettered : ∀ ref ∈ c.refs, ref.Lettered) :
    c.holds a scope = c.holds b scope := by
  have hvalue (operand : Operand) (hmem : operand ∈ c.operands) :
      operand.value a scope = operand.value b scope := by
    apply h.value_eq
    intro ref href
    exact hlettered ref (List.mem_flatMap.mpr ⟨operand, hmem, href⟩)
  cases c with
  | switch operand negated =>
    simp only [Condition.holds, hvalue operand List.mem_cons_self]
  | compare left op right =>
    simp only [Condition.holds, hvalue left List.mem_cons_self,
      hvalue right (List.mem_cons_of_mem left List.mem_cons_self)]
  | partySize op n core => simp only [Condition.holds, h.party, h.coreSize]
  | member whom what op n => cases whom <;> simp only [Condition.holds, h.party]

/-- The same branch takes the place of a directive, or the same fault ends it: conditions name no
slots but the lettered ones. -/
theorem choose_eq : Expansion.choose a scope = Expansion.choose b scope := by
  funext d
  have hread := Condition.parse_readFrom d.opcode d.condition
  unfold Expansion.choose
  cases hc : Condition.parse d.opcode d.condition with
  | error fault => rfl
  | ok c =>
    rw [hc] at hread
    simp only [bind, Except.bind, h.holds_eq hread.lettered]

end State.AgreeInside

/-- Two states that cannot reach other scopes and agree inside one have the same outcomes there,
faults included: of every text its expansion, rendering and verdict of emptiness, and of every list
of choices what is left of it. -/
theorem Engine.outcomes_eq_of_agreeInside (engine : Engine) (scope : Option Scope) {a b : State}
    (h : State.AgreeInside (scope.getD a.current) a b) :
    (∀ s, { engine with state := a }.expand scope s = { engine with state := b }.expand scope s ∧
      { engine with state := a }.render scope s = { engine with state := b }.render scope s ∧
      { engine with state := a }.isEmpty scope s = { engine with state := b }.isEmpty scope s) ∧
    ∀ choices cancel default,
      { engine with state := a }.filterChoices scope choices cancel default =
        { engine with state := b }.filterChoices scope choices cancel default := by
  have hdirectives (s : List Char) : { engine with state := a }.directives scope s =
      { engine with state := b }.directives scope s := by
    simp only [Engine.directives, Engine.scopeOr, Expansion.directives, ← h.current]
    exact Expansion.run_eq_of_choose_eq h.choose_eq _ _ _ _
  have hexpand (s : List Char) : { engine with state := a }.expand scope s =
      { engine with state := b }.expand scope s :=
    congrArg (Except.map (decodeBraces engine.escape)) (hdirectives s)
  have hempty (s : List Char) : { engine with state := a }.isEmpty scope s =
      { engine with state := b }.isEmpty scope s := by
    simp only [Engine.isEmpty, hexpand]
  refine ⟨fun s => ⟨hexpand s, ?_, hempty s⟩, ?_⟩
  · simp only [Engine.render, hdirectives]
  · intro choices cancel default
    simp only [Engine.filterChoices, hempty]

/-- A host without the capability whose state is full of what it cannot reach. -/
def walledState : State where
  selfSwitches := [((⟨1, none⟩, .number 5), true), ((⟨1, some 3⟩, .name ['A']), true)]
  selfVars := [((⟨1, none⟩, .number 2), 9)]
  contexts := [("Guard".toList, 3)]
  crossContext := false

theorem Engine.outcomes_eq_walledState :
    State.AgreeInside ⟨1, none⟩ walledState { crossContext := false } ∧
      (Engine.open walledState {}).render none "\\ON[A]\x7bx\x7d\\ON[A@Guard]\x7by\x7d".toList =
        (Engine.open { crossContext := false } {}).render none
          "\\ON[A]\x7bx\x7d\\ON[A@Guard]\x7by\x7d".toList := by
  have hagree : State.AgreeInside ⟨1, none⟩ walledState { crossContext := false } := by
    refine ⟨⟨rfl, rfl⟩, rfl, fun _ => rfl, fun _ => rfl, rfl, rfl, ?_⟩
    intro c hc
    simp only [selfLetters, List.mem_cons, List.not_mem_nil, or_false] at hc
    rcases hc with rfl | rfl | rfl | rfl <;> rfl
  have houtcomes := outcomes_eq_of_agreeInside (Engine.open {} {}) none
    (a := walledState) hagree
  exact ⟨hagree, (houtcomes.1 _).2.1⟩

end DialogueMarkup
