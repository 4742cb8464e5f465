import DialogueMarkup.Engine
import DialogueMarkup.Proofs.Evaluation
import DialogueMarkup.Summary

/-! A summary lists all that a text reads: in two states that agree on what it lists, a well-formed
text has the same outcome. Every condition that any pass decides is one of the heads that the scan
has noted. -/
namespace DialogueMarkup
open Text Markup

namespace SelfRef
variable {ref : SelfRef}

/-- What every host has to read is a switch without an address. -/
theorem plain_of_not_needsCrossContext (h : ref.needsCrossContext = false) :
    ref.kind = .switch ∧ ref.container = none ∧ ref.context = none := by
  simp only [needsCrossContext, Bool.or_eq_false_iff, decide_eq_false_iff_not,
    Option.isSome_eq_false_iff, Option.isNone_iff_eq_none] at h
  obtain ⟨⟨⟨hkind, -⟩, hcontainer⟩, hcontext⟩ := h
  refine ⟨?_, hcontainer, hcontext⟩
  cases hk : ref.kind
  · rfl
  · exact absurd hk hkind

/-- It belongs to the current scope. -/
theorem scope_of_not_needsCrossContext (h : ref.needsCrossContext = false) (st : State)
    (current : Scope) : ref.scope st current = .ok current := by
  obtain ⟨-, hcontainer, hcontext⟩ := plain_of_not_needsCrossContext h
  simp only [scope, h, hcontainer, hcontext]
  rfl

end SelfRef

namespace Summary

/-- Two states agree, seen from a scope, on everything that a summary lists. -/
structure Agree (m : Summary) (scope : Scope) (a b : State) : Prop where
  current : a.current = b.current
  crossContext : a.crossContext = b.crossContext
  containers : ∀ name, a.containers.get? name = b.containers.get? name
  contexts : ∀ name, a.contexts.get? name = b.contexts.get? name
  switches : ∀ id ∈ m.switches, a.switch none (.number id) = b.switch none (.number id)
  vars : ∀ id ∈ m.vars, a.reading none (.number id) = b.reading none (.number id)
  selfSwitches : ∀ slot ∈ m.selfSwitches,
    a.switch (some scope) (.name slot) = b.switch (some scope) (.name slot)
  selfReferences : m.selfReferences ≠ [] → ∀ scope slot,
    a.switch (some scope) slot = b.switch (some scope) slot ∧
      a.reading (some scope) slot = b.reading (some scope) slot
  partyConditions : m.partyConditions ≠ [] → a.party = b.party ∧ a.coreSize = b.coreSize

/-- A summary lists nothing that another one does not. -/
structure Within (m m' : Summary) : Prop where
  switches : ∀ id ∈ m.switches, id ∈ m'.switches
  vars : ∀ id ∈ m.vars, id ∈ m'.vars
  selfSwitches : ∀ slot ∈ m.selfSwitches, slot ∈ m'.selfSwitches
  selfReferences : m.selfReferences ≠ [] → m'.selfReferences ≠ []
  partyConditions : m.partyConditions ≠ [] → m'.partyConditions ≠ []

section
variable {m m' m'' : Summary} {scope : Scope} {a b : State}

theorem Within.refl (m : Summary) : m.Within m :=
  ⟨fun _ h => h, fun _ h => h, fun _ h => h, id, id⟩

theorem Within.trans (h : m.Within m') (h' : m'.Within m'') : m.Within m'' where
  switches id hid := h'.switches id (h.switches id hid)
  vars id hid := h'.vars id (h.vars id hid)
  selfSwitches slot hslot := h'.selfSwitches slot (h.selfSwitches slot hslot)
  selfReferences hne := h'.selfReferences (h.selfReferences hne)
  partyConditions hne := h'.partyConditions (h.partyConditions hne)

theorem Agree.of_within (h : m'.Agree scope a b) (hm : m.Within m') : m.Agree scope a b where
  current := h.current
  crossContext := h.crossContext
  containers := h.containers
  contexts := h.contexts
  switches id hid := h.switches id (hm.switches id hid)
  vars id hid := h.vars id (hm.vars id hid)
  selfSwitches slot hslot := h.selfSwitches slot (hm.selfSwitches slot hslot)
  selfReferences hne := h.selfReferences (hm.selfReferences hne)
  partyConditions hne := h.partyConditions (hm.partyConditions hne)

@[simp]
theorem mem_note {α : Type} [DecidableEq α] {xs : List α} {x y : α} :
    y ∈ note xs x ↔ y ∈ xs ∨ y = x := by
  unfold note
  split
  · constructor
    · exact Or.inl
    · rintro (h | rfl) <;> assumption
  · simp

theorem note_ne_nil {α : Type} [DecidableEq α] (xs : List α) (x : α) : note xs x ≠ [] :=
  List.ne_nil_of_mem (mem_note.mpr (Or.inr rfl))

theorem within_noteOperand (m : Summary) (operand : Operand) :
    m.Within (m.noteOperand operand) := by
  have hrefl := Within.refl m
  have hreference (ref : SelfRef) :
      m.Within { m with selfReferences := note m.selfReferences (label ref) } :=
    { hrefl with selfReferences := fun _ => note_ne_nil _ _ }
  cases operand with
  | constant n => exact hrefl
  | global kind id =>
    rcases kind with _ | _
    · exact { hrefl with switches := fun _ h => mem_note.mpr (Or.inl h) }
    · exact { hrefl with vars := fun _ h => mem_note.mpr (Or.inl h) }
  | self ref =>
    simp only [noteOperand]
    split
    · split
      · exact hreference ref
      · exact { hrefl with selfSwitches := fun _ h => mem_note.mpr (Or.inl h) }
    · exact hreference ref

theorem within_noteCondition (m : Summary) (head : Head) (c : Condition) :
    m.Within (m.noteCondition head c) := by
  have hparty : m.Within { m with partyConditions := m.partyConditions ++
      [head.opcode.name ++ argumentSource head.condition] } :=
    { Within.refl m with partyConditions := fun _ => by simp }
  cases c with
  | switch operand negated => exact within_noteOperand m operand
  | compare left op right =>
    exact (within_noteOperand m left).trans (within_noteOperand (m.noteOperand left) right)
  | partySize op n core => exact hparty
  | member whom what op n => exact hparty

theorem within_of_noteHead {head : Head} (h : m.noteHead head = .ok m') : m.Within m' := by
  have hrefl := Within.refl m
  simp only [noteHead] at h
  split at h
  · cases h
    have hcounted : m.Within { m with
        directiveCount := m.directiveCount + 1
        opcodes := count head.opcode m.opcodes } := { hrefl with }
    exact hcounted.trans (within_noteCondition _ head _)
  · cases h
  · cases h
    exact { hrefl with }

/-- A scan that goes through has noted every head in a summary within the last one. -/
theorem within_of_foldlM {heads : List Head} (h : heads.foldlM noteHead m = .ok m') :
    m.Within m' ∧ ∀ head ∈ heads, ∃ n n', noteHead n head = .ok n' ∧ n'.Within m' := by
  induction heads generalizing m with
  | nil =>
    cases h
    exact ⟨.refl _, fun _ hmem => by cases hmem⟩
  | cons head heads ih =>
    rw [List.foldlM_cons] at h
    obtain ⟨n, hn, hrest⟩ := bind_eq_ok h
    obtain ⟨hwithin, hall⟩ := ih hrest
    refine ⟨(within_of_noteHead hn).trans hwithin, ?_⟩
    intro other hother
    rcases List.mem_cons.mp hother with rfl | hmem
    · exact ⟨m, n, hn, hwithin⟩
    · exact hall other hmem

namespace Agree

theorem scope_eq (h : m.Agree scope a b) (ref : SelfRef) (current : Scope) :
    ref.scope a current = ref.scope b current := by
  have hcontainer (place : Place) : place.resolve a.containers .container ref =
      place.resolve b.containers .container ref := by
    cases place with
    | id n => rfl
    | name s => simp only [Place.resolve, h.containers]
  have hcontext (place : Place) : place.resolve a.contexts .context ref =
      place.resolve b.contexts .context ref := by
    cases place with
    | id n => rfl
    | name s => simp only [Place.resolve, h.contexts]
  simp only [SelfRef.scope, h.crossContext, hcontainer, hcontext]

/-- What an operand means depends on what is noted for it. -/
theorem value_eq {operand : Operand} (h : (m.noteOperand operand).Agree scope a b) :
    operand.value a scope = operand.value b scope := by
  cases operand with
  | constant n => rfl
  | global kind id =>
    rcases kind with _ | _
    · have hread := h.switches id (mem_note.mpr (Or.inr rfl))
      simp only [Operand.value, Kind.read, hread]
    · have hread := h.vars id (mem_note.mpr (Or.inr rfl))
      simp only [Operand.value, Kind.read, hread]
  | self ref =>
    have hscope := h.scope_eq ref scope
    have hreference (hall : ∀ scope slot,
        a.switch (some scope) slot = b.switch (some scope) slot ∧
          a.reading (some scope) slot = b.reading (some scope) slot) :
        (Operand.self ref).value a scope = (Operand.self ref).value b scope := by
      simp only [Operand.value, hscope, Kind.read, hall]
    simp only [noteOperand] at h
    split at h
    · -- a named slot: only without an address is it noted by its name
      rename_i slot hslot
      split at h
      · exact hreference (h.selfReferences (note_ne_nil _ _))
      · rename_i hplain
        have hread := h.selfSwitches slot (mem_note.mpr (Or.inr rfl))
        have hplain : ref.needsCrossContext = false := by simpa using hplain
        have hkind := (SelfRef.plain_of_not_needsCrossContext hplain).1
        have hvalue (st : State) : (Operand.self ref).value st scope =
            ref.kind.read st (some scope) ref.slot := by
          simp only [Operand.value, SelfRef.scope_of_not_needsCrossContext hplain]
          rfl
        rw [hvalue, hvalue, hkind, hslot]
        simp only [Kind.read, hread]
    · exact hreference (h.selfReferences (note_ne_nil _ _))

/-- So does whether a condition holds. -/
theorem holds_eq {head : Head} {c : Condition} (h : (m.noteCondition head c).Agree scope a b) :
    c.holds a scope = c.holds b scope := by
  cases c with
  | switch operand negated => simp only [Condition.holds, h.value_eq]
  | compare left op right =>
    have hleft : (m.noteOperand left).Agree scope a b := h.of_within (within_noteOperand _ right)
    simp only [Condition.holds, hleft.value_eq, h.value_eq]
  | partySize op n core =>
    obtain ⟨hparty, hcore⟩ := h.partyConditions (by simp [noteCondition])
    simp only [Condition.holds, hparty, hcore]
  | member whom what op n =>
    obtain ⟨hparty, -⟩ := h.partyConditions (by simp [noteCondition])
    cases whom <;> simp only [Condition.holds, hparty]

theorem decide_eq {head : Head} (hm : m.noteHead head = .ok m') (h : m'.Agree scope a b) :
    head.decide a scope = head.decide b scope := by
  simp only [noteHead] at hm
  unfold Head.decide
  split at hm
  · rename_i c hc
    cases hm
    rw [hc]
    exact h.holds_eq
  · rename_i fault hfault
    rw [hfault]
    rfl
  · rename_i fault _ hfault
    rw [hfault]
    rfl

end Agree

/-- The scan of a text sorts what it has noted, and adds what is no business of conditions. -/
theorem within_of_ofText {escape : Char} {s : List Char} (h : ofText escape s = .ok m') :
    ∃ m, (marks (readHead escape) s).foldlM noteHead {} = .ok m ∧ m.Within m' := by
  simp only [ofText] at h
  obtain ⟨m, hm, hsorted⟩ := bind_eq_ok h
  cases hsorted
  have hrefl := Within.refl m
  exact ⟨m, hm, { hrefl with
    switches := fun _ hid => List.mem_mergeSort.mpr hid
    vars := fun _ hid => List.mem_mergeSort.mpr hid }⟩

/-- States that agree on what a text's summary lists decide every head of the text alike. -/
theorem Agree.decide_eq_of_mem_marks {escape : Char} {s : List Char} (hm : ofText escape s = .ok m)
    (h : m.Agree scope a b) {head : Head} (hmem : head ∈ marks (readHead escape) s) :
    head.decide a scope = head.decide b scope := by
  obtain ⟨noted, hfold, hwithin⟩ := within_of_ofText hm
  obtain ⟨n, n', hnote, hn⟩ := (within_of_foldlM hfold).2 head hmem
  exact decide_eq hnote (h.of_within (hn.trans hwithin))

end

end Summary

namespace Expansion

section
variable {e : Escape} {t : Tree e} {a b : State} {scope : Scope}

theorem pass?_eq_of_decide_eq (he : e.Unguarded)
    (h : ∀ head ∈ t.heads, head.decide a scope = head.decide b scope) :
    pass? a scope e.char t.guarded = pass? b scope e.char t.guarded := by
  have hholds : ∀ head ∈ t.heads, head.holds a scope = head.holds b scope := by
    intro head hmem
    simp only [Head.holds, h head hmem]
  have hcheck : ∀ head ∈ t.headsAt 1, head.check a scope = head.check b scope := by
    intro head hmem
    simp only [Head.check, h head ((t.mem_heads_iff head).mpr ⟨0, hmem⟩)]
  rw [pass?_guarded a scope he, pass?_guarded b scope he, forM_congr_of_mem hcheck,
    Tree.reduce_congr hholds]

/-- Passes over a well-formed text decide no heads but its own, so two states in which those are
decided alike are not told apart, whatever the ceiling. -/
theorem run_eq_of_decide_eq (he : e.Unguarded)
    (h : ∀ head ∈ t.heads, head.decide a scope = head.decide b scope) (left done : Nat) :
    run a scope e.char left done t.guarded = run b scope e.char left done t.guarded := by
  have hpass := pass?_eq_of_decide_eq he h
  -- the heads that a pass leaves are among those of the tree, so the states still agree on them
  induction left generalizing t done with
  | zero => rw [run, run, hpass]
  | succ left ih =>
    rw [run, run, hpass, pass?_guarded b scope he]
    by_cases hflat : t.height = 0
    · rw [if_pos hflat]
    · rw [if_neg hflat]
      cases forM (t.headsAt 1) (Head.check b scope) with
      | error fault => rfl
      | ok _ =>
        have hreduced : ∀ head ∈ (t.reduce (Head.holds b scope)).heads,
            head.decide a scope = head.decide b scope := fun head hmem =>
          h head (t.mem_heads_of_mem_reduce (Head.holds b scope) hmem)
        exact ih hreduced (done + 1) (pass?_eq_of_decide_eq he hreduced)

end

end Expansion

/-- On a well-formed text, two states that agree on everything its summary lists have the same
expansion, the same rendering and the same verdict of emptiness, faults included. -/
theorem Engine.outcomes_eq_of_agree {e : Escape} (he : e.Unguarded) {t : Tree e} {m : Summary}
    (hm : Summary.ofText e.char t.source = .ok m) (engine : Engine)
    (hescape : engine.escape = e.char) (scope : Option Scope) {a b : State}
    (h : m.Agree (scope.getD a.current) a b) :
    { engine with state := a }.expand scope t.source =
        { engine with state := b }.expand scope t.source ∧
      { engine with state := a }.render scope t.source =
        { engine with state := b }.render scope t.source ∧
      { engine with state := a }.isEmpty scope t.source =
        { engine with state := b }.isEmpty scope t.source := by
  have hdecide : ∀ head ∈ t.heads, head.decide a (scope.getD a.current) =
      head.decide b (scope.getD a.current) := by
    rw [← t.marks_readHead_source]
    exact fun head hmem => h.decide_eq_of_mem_marks hm hmem
  have hdirectives : { engine with state := a }.directives scope t.source =
      { engine with state := b }.directives scope t.source := by
    simp only [Engine.directives, Engine.scopeOr, Expansion.directives, hescape,
      t.guardSpans_source, ← h.current]
    exact Expansion.run_eq_of_decide_eq he hdecide _ _
  have hexpand : { engine with state := a }.expand scope t.source =
      { engine with state := b }.expand scope t.source :=
    congrArg (Except.map (decodeBraces engine.escape)) hdirectives
  refine ⟨hexpand, ?_, ?_⟩
  · simp only [Engine.render, hdirectives]
  · simp only [Engine.isEmpty, hexpand]

/-- A switch of the current scope inside a directive that asks for a global one. -/
def switchTree : Tree Escape.backslash :=
  let off : Test Escape.backslash := ⟨.off, .plain _, ⟨['7'], forall_mem_of_all (by decide)⟩⟩
  let on : Test Escape.backslash := ⟨.on, .plain _, ⟨['s', 'a'], forall_mem_of_all (by decide)⟩⟩
  .directive off (.directive on (.char 'z' (by decide) .nil) .nil) .nil

def switchSummary : Summary where
  directiveCount := 2
  opcodes := [(.off, 1), (.on, 1)]
  switches := [7].mergeSort (· ≤ ·)
  vars := [].mergeSort (· ≤ ·)
  selfSwitches := [['A']]

theorem Engine.outcomes_eq_switchTree :
    Summary.ofText '\\' switchTree.source = .ok switchSummary ∧
      switchSummary.Agree ⟨1, none⟩ { switches := [(.number 3, true)] } {} ∧
      (Engine.open { switches := [(.number 3, true)] } {}).render none switchTree.source =
        (Engine.open {} {}).render none switchTree.source := by
  have hguards : Escape.backslash.Unguarded := ⟨by decide, by decide⟩
  have hscan : Summary.ofText '\\' switchTree.source = .ok switchSummary := rfl
  have hagree : switchSummary.Agree ⟨1, none⟩ { switches := [(.number 3, true)] } {} := by
    refine ⟨rfl, rfl, fun _ => rfl, fun _ => rfl, ?_, ?_, fun _ _ => rfl, ?_, ?_⟩
    · intro id hid
      rw [switchSummary, List.mem_mergeSort, List.mem_singleton] at hid
      subst hid
      rfl
    · intro id hid
      rw [switchSummary, List.mem_mergeSort] at hid
      cases hid
    · intro hne
      exact absurd rfl hne
    · intro hne
      exact absurd rfl hne
  have houtcomes := outcomes_eq_of_agree hguards hscan (Engine.open {} {}) rfl none
    (a := { switches := [(.number 3, true)] }) hagree
  exact ⟨hscan, hagree, houtcomes.2.1⟩

end DialogueMarkup
