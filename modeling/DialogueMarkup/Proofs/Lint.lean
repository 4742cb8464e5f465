import DialogueMarkup.Engine
import DialogueMarkup.Proofs.Complaints
import DialogueMarkup.Proofs.Evaluation

/-! The problems of a summary are exact: a well-formed text has some if and only if it holds a
malformed condition, and a malformed condition fails in every state, chosen or not. -/
namespace DialogueMarkup
open Text Markup

namespace Markup.Head

/-- The condition under a head can be read. -/
def Readable (h : Head) : Prop := ∃ c, Condition.parse h.opcode h.condition = .ok c

/-- The condition under a head departs from the grammar of its opcode. -/
def Malformed (h : Head) : Prop :=
  ∃ cause text, Condition.parse h.opcode h.condition = .error (.malformed cause text)

theorem not_malformed_of_readable {h : Head} (hread : h.Readable) : ¬ h.Malformed := by
  rintro ⟨cause, text, herror⟩
  obtain ⟨c, hc⟩ := hread
  rw [hc] at herror
  cases herror

/-- A malformed condition fails in every state. -/
theorem check_of_malformed {h : Head} (hmal : h.Malformed) :
    ∃ cause text, ∀ st current, h.check st current = .error (.malformed cause text) := by
  obtain ⟨cause, text, herror⟩ := hmal
  refine ⟨cause, text, fun st current => ?_⟩
  rw [check, decide, herror]
  rfl

/-- One that can be read fails only at its references. -/
theorem check_ends_of_parse_eq_ok {h : Head} {c : Condition}
    (hc : Condition.parse h.opcode h.condition = .ok c) (st : State) (current : Scope) :
    Ends (fun _ => True) (Fault.OfReference st c.refs) (h.check st current) := by
  have hparse := Condition.parse_ends h.opcode h.condition
  rw [hc] at hparse
  have hholds : Ends (fun _ => True) (Fault.OfReference st c.refs) (c.holds st current) :=
    ends_mono (fun _ _ => trivial) (fun _ hfault => hfault) (Condition.holds_ends hparse current)
  have hdecide : h.decide st current = c.holds st current := by
    rw [decide, hc]
    rfl
  rw [check, hdecide]
  cases hv : c.holds st current with
  | ok holds => trivial
  | error fault =>
    rw [hv] at hholds
    exact hholds

theorem fault_of_check {h : Head} (hform : h.Readable ∨ h.Malformed) {st : State}
    {current : Scope} {fault : Fault} (hcheck : h.check st current = .error fault) :
    (∃ cause text, fault = .malformed cause text) ∨
      ∃ c, Condition.parse h.opcode h.condition = .ok c ∧ Fault.OfReference st c.refs fault := by
  rcases hform with ⟨c, hc⟩ | hmal
  · have hends := check_ends_of_parse_eq_ok hc st current
    rw [hcheck] at hends
    exact Or.inr ⟨c, hc, hends⟩
  · obtain ⟨cause, text, hsame⟩ := check_of_malformed hmal
    rw [hsame st current] at hcheck
    exact Or.inl ⟨cause, text, (Except.error.inj hcheck).symm⟩

end Markup.Head

namespace Summary

section
variable {m m' : Summary}

/-- A head that the scan gets past can be read, or adds a problem. -/
theorem noteHead_eq_ok {head : Head} (h : m.noteHead head = .ok m') :
    head.Readable ∧ m'.problems = m.problems ∨ head.Malformed ∧ m'.problems ≠ [] := by
  have hparse := Condition.parse_ends head.opcode head.condition
  simp only [noteHead] at h
  split at h
  · rename_i c hc
    cases h
    exact Or.inl ⟨⟨c, hc⟩, (noteCondition_report _ head c).2⟩
  · cases h
  · rename_i fault hnumeral hfault
    cases h
    rw [hfault] at hparse
    rcases hparse with ⟨cause, rfl⟩ | ⟨numeral, rfl⟩
    · exact Or.inr ⟨⟨cause, _, hfault⟩, by simp⟩
    · exact absurd rfl (hnumeral numeral)

/-- A scan that goes through has problems if it starts with some or meets a malformed head. -/
theorem problems_of_foldlM {heads : List Head} (h : heads.foldlM noteHead m = .ok m') :
    (∀ head ∈ heads, head.Readable ∨ head.Malformed) ∧
      (m'.problems = [] ↔ m.problems = [] ∧ ∀ head ∈ heads, head.Readable) := by
  induction heads generalizing m with
  | nil =>
    cases h
    simp
  | cons head heads ih =>
    rw [List.foldlM_cons] at h
    obtain ⟨n, hn, hrest⟩ := bind_eq_ok h
    obtain ⟨hall, hproblems⟩ := ih hrest
    rw [List.forall_mem_cons, List.forall_mem_cons, hproblems]
    -- a problem stays in the list, so a malformed head settles both sides
    rcases noteHead_eq_ok hn with ⟨hread, hsame⟩ | ⟨hmal, hne⟩
    · refine ⟨⟨Or.inl hread, hall⟩, ?_⟩
      rw [hsame]
      exact ⟨fun h => ⟨h.1, hread, h.2⟩, fun h => ⟨h.1, h.2.2⟩⟩
    · refine ⟨⟨Or.inr hmal, hall⟩, ?_⟩
      constructor
      · intro h
        exact absurd h.1 hne
      · intro h
        exact absurd hmal (Head.not_malformed_of_readable h.2.1)

/-- The heads of a text that a scan goes through can be read or are malformed, and the text has no
problems if and only if all can be read. -/
theorem problems_of_ofText {escape : Char} {s : List Char} (h : ofText escape s = .ok m) :
    (∀ head ∈ marks (readHead escape) s, head.Readable ∨ head.Malformed) ∧
      (m.problems = [] ↔ ∀ head ∈ marks (readHead escape) s, head.Readable) := by
  simp only [ofText] at h
  obtain ⟨n, hfold, hm⟩ := bind_eq_ok h
  cases hm
  simpa using problems_of_foldlM hfold

end

end Summary

/-- A state has an id for every name in the address of a reference. -/
def State.Maps (st : State) (ref : SelfRef) : Prop :=
  (∀ name, ref.container = some (.name name) → (st.containers.get? name).isSome) ∧
    ∀ name, ref.context = some (.name name) → (st.contexts.get? name).isSome

/-- A state has an id for every name that the conditions of a text refer to. -/
def State.MapsAll (st : State) (heads : List Head) : Prop :=
  ∀ head ∈ heads, ∀ c, Condition.parse head.opcode head.condition = .ok c →
    ∀ ref ∈ c.refs, st.Maps ref

namespace Fault
variable {st : State} {refs : List SelfRef} {fault : Fault}

/-- A fault at a reference is one of the markup, but not of its form. -/
theorem OfReference.title? (h : OfReference st refs fault) :
    fault.title?.isSome ∧ (∀ cause text, fault ≠ .malformed cause text) ∧
      ∀ name, fault ≠ .unknownOpcode name := by
  cases fault with
  | unresolved kind name text => exact ⟨rfl, by simp, by simp⟩
  | crossContext text => exact ⟨rfl, by simp, by simp⟩
  | malformed | unknownOpcode | divergence | numeral => exact absurd h id

/-- It needs a state without the capability, or without the name. -/
theorem not_ofReference (hcross : st.crossContext = true) (hmaps : ∀ ref ∈ refs, st.Maps ref) :
    ¬ OfReference st refs fault := by
  intro h
  cases fault with
  | crossContext text =>
    have hnot : st.crossContext = false := h
    rw [hcross] at hnot
    cases hnot
  | unresolved kind name text =>
    cases kind with
    | container =>
      obtain ⟨hnone, ref, hmem, hname⟩ := h
      have hsome := (hmaps ref hmem).1 name hname
      rw [hnone] at hsome
      cases hsome
    | context =>
      obtain ⟨hnone, ref, hmem, hname⟩ := h
      have hsome := (hmaps ref hmem).2 name hname
      rw [hnone] at hsome
      cases hsome
  | malformed | unknownOpcode | divergence | numeral => exact h

end Fault

section
variable {e : Escape} {t : Tree e} {st : State} {current : Scope}

/-- A well-formed text that fails does so at one of its heads. -/
theorem exists_head_of_expand_eq_error (he : e.Unguarded) {fault : Fault}
    (h : Expansion.expand st current e.char none t.source = .error fault) :
    ∃ head ∈ t.heads, head.check st current = .error fault := by
  rw [Expansion.expand_eq_error_iff st current he] at h
  obtain ⟨head, hmem, hcheck⟩ := exists_mem_of_forM_eq_error h
  exact ⟨head, (t.mem_agenda_iff head).mp hmem, hcheck⟩

/-- Where all conditions can be read, no state finds the markup malformed. -/
theorem not_malformed_of_expand_eq_error (he : e.Unguarded)
    (hread : ∀ head ∈ t.heads, head.Readable) {fault : Fault}
    (h : Expansion.expand st current e.char none t.source = .error fault) :
    (∀ cause text, fault ≠ .malformed cause text) ∧ ∀ name, fault ≠ .unknownOpcode name := by
  obtain ⟨head, hmem, hcheck⟩ := exists_head_of_expand_eq_error he h
  obtain ⟨c, hc⟩ := hread head hmem
  have hends := Head.check_ends_of_parse_eq_ok hc st current
  rw [hcheck] at hends
  exact (Fault.OfReference.title? hends).2

/-- A malformed condition makes its text fail, wherever it stands. -/
theorem exists_fault_of_malformed (he : e.Unguarded) {head : Head} (hmem : head ∈ t.heads)
    (hmal : head.Malformed) (st : State) (current : Scope) :
    ∃ fault, Expansion.expand st current e.char none t.source = .error fault := by
  obtain ⟨cause, text, hcheck⟩ := Head.check_of_malformed hmal
  obtain ⟨fault, hfault⟩ :=
    exists_forM_eq_error ((t.mem_agenda_iff head).mpr hmem) (hcheck st current)
  exact ⟨fault, (Expansion.expand_eq_error_iff st current he t fault).mpr hfault⟩

end

/-- The lint is exact. Without problems no state finds the markup malformed; with a problem every
state faults, and one that lacks nothing the text refers to finds it malformed. -/
theorem Engine.expand_problems {e : Escape} (he : e.Unguarded) {t : Tree e} {m : Summary}
    (hm : Summary.ofText e.char t.source = .ok m) (engine : Engine)
    (hescape : engine.escape = e.char) (hceiling : engine.maxPasses = none)
    (scope : Option Scope) :
    (m.problems = [] → ∀ fault, engine.expand scope t.source = .error fault →
      (∀ cause text, fault ≠ .malformed cause text) ∧ ∀ name, fault ≠ .unknownOpcode name) ∧
    (m.problems ≠ [] → ∃ fault, engine.expand scope t.source = .error fault ∧
      fault.title?.isSome) ∧
    (engine.state.crossContext = true → engine.state.MapsAll t.heads →
      ((∃ cause text, engine.expand scope t.source = .error (.malformed cause text)) ↔
        m.problems ≠ [])) := by
  obtain ⟨hall, hproblems⟩ := Summary.problems_of_ofText hm
  rw [t.marks_readHead_source] at hall hproblems
  have hexpand : engine.expand scope t.source =
      Expansion.expand engine.state (engine.scopeOr scope) e.char none t.source := by
    rw [Engine.expand, hescape, hceiling]
  rw [hexpand]
  generalize engine.scopeOr scope = current
  have hbad (hne : m.problems ≠ []) : ∃ head ∈ t.heads, head.Malformed := by
    obtain ⟨head, hhead⟩ := Classical.not_forall.mp (mt hproblems.mpr hne)
    obtain ⟨hmem, hread⟩ := Classical.not_imp.mp hhead
    exact ⟨head, hmem, (hall head hmem).resolve_left hread⟩
  have hfails (hne : m.problems ≠ []) : ∃ fault,
      Expansion.expand engine.state current e.char none t.source = .error fault := by
    obtain ⟨head, hmem, hmal⟩ := hbad hne
    exact exists_fault_of_malformed he hmem hmal engine.state current
  have hclean (hnil : m.problems = []) (fault : Fault)
      (h : Expansion.expand engine.state current e.char none t.source = .error fault) :=
    not_malformed_of_expand_eq_error he (hproblems.mp hnil) h
  refine ⟨hclean, ?_, ?_⟩
  -- a fault is that of one head: it is malformed, or refers to what the state lacks
  · intro hne
    obtain ⟨fault, hfault⟩ := hfails hne
    obtain ⟨head, hmem, hcheck⟩ := exists_head_of_expand_eq_error he hfault
    refine ⟨fault, hfault, ?_⟩
    rcases Head.fault_of_check (hall head hmem) hcheck with ⟨cause, text, rfl⟩ | ⟨c, -, href⟩
    · rfl
    · exact href.title?.1
  · intro hcross hmaps
    constructor
    · rintro ⟨cause, text, hfault⟩ hnil
      exact (hclean hnil _ hfault).1 cause text rfl
    · intro hne
      obtain ⟨fault, hfault⟩ := hfails hne
      obtain ⟨head, hmem, hcheck⟩ := exists_head_of_expand_eq_error he hfault
      rcases Head.fault_of_check (hall head hmem) hcheck with ⟨cause, text, rfl⟩ | ⟨c, hc, href⟩
      · exact ⟨cause, text, hfault⟩
      · exact absurd href (Fault.not_ofReference hcross (hmaps head hmem c hc))

/-- A malformed condition in a branch that is never taken. -/
def unchosenTree : Tree Escape.backslash :=
  let on : Test Escape.backslash := ⟨.on, .plain _, ⟨['4'], forall_mem_of_all (by decide)⟩⟩
  let bad : Test Escape.backslash := ⟨.ov, .plain _, ⟨['v'], forall_mem_of_all (by decide)⟩⟩
  .directive on (.directive bad .nil .nil) .nil

theorem Engine.expand_problems_unchosenTree :
    ∃ m, Summary.ofText '\\' unchosenTree.source = .ok m ∧ m.problems ≠ [] ∧
      ∃ cause text, (Engine.open {} {}).expand none unchosenTree.source =
        .error (.malformed cause text) := by
  have hguards : Escape.backslash.Unguarded := ⟨by decide, by decide⟩
  have hmaps : (Engine.open {} {}).state.MapsAll unchosenTree.heads := by
    intro head hmem c hc ref href
    rcases hmem with _ | ⟨_, _ | ⟨_, hnil⟩⟩
    · cases hc
      cases href
    · cases hc
    · cases hnil
  refine ⟨_, rfl, by decide, ?_⟩
  have hexact := expand_problems hguards (t := unchosenTree) rfl (Engine.open {} {}) rfl rfl none
  exact (hexact.2.2 rfl hmaps).mpr (by decide)

end DialogueMarkup
