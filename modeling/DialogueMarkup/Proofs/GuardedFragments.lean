import DialogueMarkup.Proofs.Ceiling
import DialogueMarkup.Proofs.Inert
import DialogueMarkup.Proofs.Unguarded

/-! The fragments of faults. What expansion returns, what it says of a fault and the text it cannot
finish hold no guard; but a condition is cut out of the guarded text as it stands, so that the
fragment of a fault holds the guards that the condition of its directive holds. -/
namespace DialogueMarkup
open Text Markup

/-! A fault of a condition shows a part of it. -/

/-- A reference whose spelling is a part of a text. -/
def SelfRef.Within (text : List Char) (ref : SelfRef) : Prop := ref.text ≠ [] ∧ ref.text <:+: text

/-- An operand whose references are spelled in a text. -/
def Operand.Within (text : List Char) (operand : Operand) : Prop :=
  ∀ ref ∈ operand.refs, ref.Within text

/-- A condition whose references are spelled in a text. -/
def Condition.Within (text : List Char) (c : Condition) : Prop :=
  ∀ operand ∈ c.operands, operand.Within text

section
variable {α : Type} {text token : List Char}

theorem ends_any (x : Except Fault α) : Ends (fun _ => True) (fun _ => True) x := by
  cases x <;> trivial

theorem Operand.within_constant (n : Int) : (Operand.constant n).Within text :=
  fun _ href => (List.not_mem_nil href).elim

theorem Operand.within_global (kind : Kind) (id : Int) : (Operand.global kind id).Within text :=
  fun _ href => (List.not_mem_nil href).elim

theorem Operand.within_self {ref : SelfRef} (h : ref.Within text) :
    (Operand.self ref).Within text := by
  intro r href
  rwa [List.mem_singleton.mp href]

theorem Operand.parseSwitch_within (text : List Char) :
    Ends (Operand.Within text) (fun _ => True) (Operand.parseSwitch text) := by
  dsimp only [Operand.parseSwitch]
  split
  · trivial
  · rename_i sigil slot address hread
    have hne : trim text ≠ [] := by
      intro hnil
      rw [hnil] at hread
      cases hread
    refine ends_bind (ends_any _) fun places _ => ?_
    cases slot with
    | letter c => exact within_self ⟨hne, trim_isInfix text⟩
    | digits values =>
      dsimp only
      split
      · exact ends_bind (ends_any _) fun n _ => within_self ⟨hne, trim_isInfix text⟩
      · split
        · trivial
        · exact ends_bind (ends_any _) fun n _ => within_global _ _

theorem VariableToken.parse_text (token text : List Char) :
    Ends (fun t : VariableToken => t.text = token ∧ token ≠ []) (fun _ => True)
      (VariableToken.parse token text) := by
  unfold VariableToken.parse
  split
  · trivial
  · rename_i sigil negative digits address hread
    have hne : token ≠ [] := by
      rintro rfl
      cases hread
    split
    · trivial
    · exact ends_bind (ends_any _) fun n _ => ⟨rfl, hne⟩

theorem VariableToken.operand_within {t : VariableToken} (ht : t.text = token ∧ token ≠ [])
    (hs : token <:+: text) : Ends (Operand.Within text) (fun _ => True) (t.operand text) := by
  obtain ⟨rfl, hne⟩ := ht
  dsimp only [VariableToken.operand]
  split
  · trivial
  · split
    · exact ends_bind (ends_any _) fun places _ => Operand.within_self ⟨hne, hs⟩
    · exact Operand.within_global _ _

theorem Operand.parseComparison_within (text : List Char) :
    Ends (fun r : Operand × Comparison × Operand => r.1.Within text ∧ r.2.2.Within text)
      (fun _ => True) (Operand.parseComparison text) := by
  dsimp only [Operand.parseComparison]
  split
  · trivial
  · rename_i leftToken op rightToken hsplit
    obtain ⟨hleftIn, hrightIn, -⟩ := splitComparison_eq_some hsplit
    refine ends_bind (VariableToken.parse_text leftToken text) fun left hleft => ?_
    refine ends_bind (VariableToken.parse_text rightToken text) fun right hright => ?_
    -- the right side is read first; a bare number on the left is a constant only beside a variable
    have hleftSide (b : Operand) (hb : b.Within text) :
        Ends (fun r : Operand × Comparison × Operand => r.1.Within text ∧ r.2.2.Within text)
          (fun _ => True)
          (if left.sigil = .bare ∧ right.sigil ≠ .bare then do
            let a ← pure (.constant left.number)
            pure (a, op, b)
          else do
            let a ← left.operand text
            pure (a, op, b)) := by
      split
      · exact ⟨within_constant _, hb⟩
      · exact ends_bind (VariableToken.operand_within hleft hleftIn) fun a ha => ⟨ha, hb⟩
    split
    · exact hleftSide _ (within_constant _)
    · exact ends_bind (VariableToken.operand_within hright hrightIn) hleftSide

theorem Condition.parse_within (opcode : Opcode) (text : List Char) :
    Ends (Condition.Within text) (fun _ => True) (Condition.parse opcode text) := by
  have hnone : ∀ operand ∈ ([] : List Operand), operand.Within text :=
    fun _ hmem => (List.not_mem_nil hmem).elim
  have hswitch (negated : Bool) : Ends (Condition.Within text) (fun _ => True)
      (do return Condition.switch (← Operand.parseSwitch text) negated) := by
    exact ends_bind (Operand.parseSwitch_within text) fun operand h =>
      List.forall_mem_cons.mpr ⟨h, hnone⟩
  have hcompare : Ends (Condition.Within text) (fun _ => True)
      (do
        let r ← Operand.parseComparison text
        return Condition.compare r.1 r.2.1 r.2.2) := by
    exact ends_bind (Operand.parseComparison_within text) fun r h =>
      List.forall_mem_cons.mpr ⟨h.1, List.forall_mem_cons.mpr ⟨h.2, hnone⟩⟩
  cases opcode <;> dsimp only [Condition.parse] <;> split
  case on.isTrue | off.isTrue | ov.isTrue | ops.isTrue | opc.isTrue | opl.isTrue | opm.isTrue =>
    trivial
  case on.isFalse => exact hswitch false
  case off.isFalse => exact hswitch true
  case ov.isFalse => exact hcompare
  case ops.isFalse | opc.isFalse =>
    split
    · trivial
    · exact ends_bind (ends_any _) fun _ _ => hnone
  case opl.isFalse | opm.isFalse =>
    split
    · trivial
    · split
      · trivial
      · exact ends_bind (ends_any _) fun _ _ => hnone

end

section
variable {text : List Char} {st : State}

theorem Place.resolve_shows (names : Table (List Char) Int) (kind : NameKind) {ref : SelfRef}
    (h : ref.Within text) (place : Place) :
    Ends (fun _ => True) (fun fault => fault.fragment <:+: text)
      (place.resolve names kind ref) := by
  cases place with
  | id n => trivial
  | name s =>
    simp only [Place.resolve]
    split
    · trivial
    · have hfragment : (if ref.text.isEmpty then s else ref.text) <:+: text := by
        rw [if_neg (by simpa using h.1)]
        exact h.2
      exact hfragment

/-- A reference that cannot be resolved is shown as it is spelled. -/
theorem SelfRef.scope_shows {ref : SelfRef} (h : ref.Within text) (current : Scope) :
    Ends (fun _ => True) (fun fault => fault.fragment <:+: text) (ref.scope st current) := by
  have hcontext (container : Int) (place : Place) :
      Ends (fun _ => True) (fun fault => fault.fragment <:+: text)
        (do
          let context ← some <$> place.resolve st.contexts .context ref
          pure (Scope.mk container context)) := by
    rw [map_eq_pure_bind, bind_assoc]
    exact ends_bind (place.resolve_shows _ _ h) fun _ _ => trivial
  dsimp only [SelfRef.scope]
  split
  · have hfragment : (if ref.text.isEmpty then ref.slot.text else ref.text) <:+: text := by
      rw [if_neg (by simpa using h.1)]
      exact h.2
    exact hfragment
  · rcases ref.container with _ | container <;> rcases ref.context with _ | context
    · trivial
    · exact hcontext current.container context
    · exact ends_bind (container.resolve_shows _ _ h) fun _ _ => trivial
    · exact ends_bind (container.resolve_shows _ _ h) fun id _ => hcontext id context

/-- What is read at a slot fails for a numeral alone, which shows nothing. -/
theorem Kind.read_shows (kind : Kind) (scope : Option Scope) (slot : Slot) :
    Ends (fun _ => True) (fun fault => fault.fragment <:+: text) (kind.read st scope slot) := by
  have hnumeral {α : Type} (x : Except NumeralFault α) :
      Ends (fun _ => True) (fun fault => fault.fragment <:+: text) (x.mapError .numeral) := by
    cases x with
    | ok a => trivial
    | error fault => exact List.nil_infix
  cases kind <;> exact hnumeral _

theorem Operand.value_shows {operand : Operand} (h : operand.Within text) (current : Scope) :
    Ends (fun _ => True) (fun fault => fault.fragment <:+: text) (operand.value st current) := by
  cases operand with
  | constant n => trivial
  | global kind id => exact kind.read_shows none _
  | self ref =>
    exact ends_bind (ref.scope_shows (h ref List.mem_cons_self) current)
      fun scope _ => ref.kind.read_shows (some scope) ref.slot

theorem Condition.holds_shows {c : Condition} (h : c.Within text) (current : Scope) :
    Ends (fun _ => True) (fun fault => fault.fragment <:+: text) (c.holds st current) := by
  cases c with
  | switch operand negated =>
    exact ends_bind (Operand.value_shows (h operand List.mem_cons_self) current)
      fun _ _ => trivial
  | compare left op right =>
    have hright := h right (List.mem_cons_of_mem left List.mem_cons_self)
    exact ends_bind (Operand.value_shows (h left List.mem_cons_self) current) fun _ _ =>
      ends_bind (Operand.value_shows hright current) fun _ _ => trivial
  | partySize op n core => trivial
  | member whom what op n => cases whom <;> trivial

end

/-- A head that cannot be decided gives rise to a fault that shows a part of its condition, and the
whole of it if the condition is malformed. -/
theorem Markup.Head.shows_of_decide {st : State} {current : Scope} {h : Head} {fault : Fault}
    (hdecide : h.decide st current = .error fault) :
    fault.fragment <:+: h.condition ∧
      ∀ cause fragment, fault = .malformed cause fragment → fragment = h.condition := by
  constructor
  · have hparse := Condition.parse_readFrom h.opcode h.condition
    have hwithin := Condition.parse_within h.opcode h.condition
    rw [decide] at hdecide
    cases hc : Condition.parse h.opcode h.condition with
    | error cause =>
      rw [hc] at hparse hdecide
      cases hdecide
      rcases hparse with ⟨cause, rfl⟩ | ⟨⟨numeral, rfl⟩, -⟩
      · exact List.infix_refl h.condition
      · exact List.nil_infix
    | ok c =>
      rw [hc] at hwithin hdecide
      have hholds : Ends (fun _ => True) (fun fault => fault.fragment <:+: h.condition)
          (c.holds st current) := Condition.holds_shows hwithin current
      rwa [show c.holds st current = .error fault from hdecide] at hholds
  · rintro cause fragment rfl
    have hends := decide_ends st current h
    rw [hdecide] at hends
    rcases hends with (⟨_, heq⟩ | ⟨_, heq⟩) | ⟨c, -, hreference⟩
    · cases heq
      rfl
    · cases heq
    · exact hreference.elim

/-! Where a condition of a run fails. -/

namespace Expansion
section
variable {st : State} {current : Scope} {escape : Char} {s t : List Char} {fault : Fault}

/-- A fault arises from a directive if the directive stands in a guarded text after some passes and
its condition fails with that fault. -/
def ArisesFrom (st : State) (current : Scope) (escape : Char) (s : List Char) (fault : Fault)
    (d : Directive) : Prop :=
  (∃ n t, after? st current escape n (guardSpans escape s) = some t ∧
    d ∈ marks (readDirective escape) t) ∧ d.head.decide st current = .error fault

/-- A run fails for want of passes, or a directive fails in one of them. -/
theorem exists_fault_of_run {left done : Nat}
    (h : run st current escape left done s = .error fault) :
    (∃ passes t, fault = .divergence passes (restoreSpans t)) ∨
      ∃ n t, after? st current escape n s = some t ∧
        ∃ d ∈ marks (readDirective escape) t, d.head.decide st current = .error fault := by
  -- the run itself fails only where no pass is left; all else comes out of a pass
  fun_induction run st current escape left done s with
  | case1 left done s hnone => cases h
  | case2 done s next hsome =>
    cases h
    exact .inl ⟨done, s, rfl⟩
  | case3 done s left fault hsome =>
    cases h
    obtain ⟨d, hd, hchoose⟩ :=
      exists_mark_of_replaceMarksM_error (readDirective_consumes escape) (pass_eq_some hsome)
    rw [choose_eq] at hchoose
    exact .inr ⟨0, s, rfl, d, hd, map_eq_error hchoose⟩
  | case4 done s left t hsome ih =>
    rcases ih h with hdivergence | ⟨n, u, hafter, hd⟩
    · exact .inl hdivergence
    · exact .inr ⟨n + 1, u, by rw [after?, hsome]; exact hafter, hd⟩

theorem exists_fault_of_directives {maxPasses : Option Int}
    (h : directives st current escape maxPasses s = .error fault) :
    (∃ passes t, fault = .divergence passes (restoreSpans t)) ∨
      ∃ d, ArisesFrom st current escape s fault d := by
  rcases exists_fault_of_run h with hdivergence | ⟨n, t, hafter, d, hd, hdecide⟩
  · exact .inl hdivergence
  · exact .inr ⟨d, ⟨n, t, hafter, hd⟩, hdecide⟩

/-- A branch holds no guard that its directive does not hold. -/
theorem unguarded_of_after (hs : Unguarded s) {n : Nat}
    (h : after? st current escape n s = some t) : Unguarded t := by
  have hpass {s t : List Char} (h : pass? st current escape s = some (.ok t))
      (hs : Unguarded s) : Unguarded t := by
    refine hs.replaceMarksM (readDirective_consumes escape) ?_ (pass_eq_some h)
    intro u d rest hread
    have hu := readDirective_eq_some hread
    refine ⟨⟨d.source, hu.symm⟩, fun part hpart hguards => ?_⟩
    obtain ⟨holds, rfl⟩ := branch_of_choose hpart
    rw [hu] at hguards
    exact hguards.of_append.1.of_isInfix (branch_isInfix_source d holds)
  induction n generalizing s with
  | zero =>
    cases h
    exact hs
  | succ n ih =>
    rw [after?] at h
    split at h
    · rename_i u hu
      exact ih (hpass hu hs) h
    · cases h

theorem condition_isInfix_source (d : Directive) : d.condition <:+: d.source := by
  have hargument : d.condition <:+: argumentSource d.condition := ⟨['['], [']'], rfl⟩
  have hhead : argumentSource d.condition <:+: d.spelling ++ argumentSource d.condition :=
    (List.suffix_append _ _).isInfix
  have hsource : d.spelling ++ argumentSource d.condition <:+: d.source := by
    rw [Directive.source, List.append_assoc]
    exact (List.prefix_append _ _).isInfix.trans (List.suffix_cons _ _).isInfix
  exact (hargument.trans hhead).trans hsource

/-- The conditions of a text without guards and without case spans hold no guards. -/
theorem ArisesFrom.unguarded_condition {d : Directive} (h : ArisesFrom st current escape s fault d)
    (hs : Unguarded s) (hspans : marks (readSpanOpening escape) s = []) :
    Unguarded d.condition := by
  obtain ⟨⟨n, t, hafter, hd⟩, -⟩ := h
  rw [guardSpans_of_marks_eq_nil hspans] at hafter
  obtain ⟨u, rest, hu, hread⟩ := exists_read_of_mem_marks (readDirective_consumes escape)
    (fun _ d _ h => ⟨d.source, (readDirective_eq_some h).symm⟩) hd
  have hsource := (unguarded_of_after hs hafter).of_isInfix hu.isInfix
  rw [readDirective_eq_some hread] at hsource
  exact hsource.of_append.1.of_isInfix (condition_isInfix_source d)

/-- What a directive fails with is never a want of passes, and shows a part of its condition. -/
theorem ArisesFrom.fragment_isInfix {d : Directive} (h : ArisesFrom st current escape s fault d) :
    fault.fragment <:+: d.condition := (Head.shows_of_decide h.2).1

end
end Expansion

namespace Engine
open Expansion

theorem fault_of_render {e : Engine} {scope : Option Scope} {s : List Char} {fault : Fault}
    (h : e.render scope s = .error fault) :
    e.directives scope s = .error fault ∨ ∃ cause, fault = .numeral cause := by
  rw [render] at h
  cases hd : e.directives scope s with
  | error cause =>
    rw [hd] at h
    cases h
    exact .inl rfl
  | ok t =>
    rw [hd] at h
    dsimp only [bind, Except.bind] at h
    split at h
    · cases hg : Grammar.apply e.settings.escape t with
      | error cause =>
        rw [hg] at h
        cases h
        exact .inr ⟨cause, rfl⟩
      | ok u =>
        rw [hg] at h
        cases h
    · cases h

/-- What is expanded or displayed holds no guard, and no fault names one in its message; nor does
the text hold one that a want of passes shows. A fragment with guards is a part of a condition whose
directive fails in some pass, and that of a malformed condition is the condition, guards and all. A
text without guards and without case spans has no such condition. -/
theorem outcomes_unguarded (e : Engine) (scope : Option Scope) (s : List Char) :
    (∀ t, e.expand scope s = .ok t ∨ e.render scope s = .ok t → Unguarded t) ∧
    ∀ fault, e.expand scope s = .error fault ∨ e.render scope s = .error fault →
      Unguarded fault.message ∧
      (∀ passes fragment, fault = .divergence passes fragment → Unguarded fragment) ∧
      (¬ Unguarded fault.fragment →
        ∃ d, ArisesFrom e.state (e.scopeOr scope) e.escape s fault d ∧
          fault.fragment <:+: d.condition) ∧
      (∀ cause fragment, fault = .malformed cause fragment →
        ∃ d, ArisesFrom e.state (e.scopeOr scope) e.escape s fault d ∧ fragment = d.condition) ∧
      (Unguarded s → marks (readSpanOpening e.escape) s = [] → Unguarded fault.fragment) := by
  constructor
  · rintro t (h | h)
    · exact unguarded_of_expand_eq_ok h
    · exact unguarded_of_render_eq_ok h
  intro fault h
  refine ⟨fault.unguarded_message, ?_⟩
  -- what is cut out of the guarded text and not restored is the condition of a directive
  have hcause : (∃ cause, fault = .numeral cause) ∨
      (∃ passes t, fault = .divergence passes (restoreSpans t)) ∨
      ∃ d, ArisesFrom e.state (e.scopeOr scope) e.escape s fault d := by
    rcases h with h | h
    · exact .inr (exists_fault_of_directives (map_eq_error h))
    · rcases fault_of_render h with h | h
      · exact .inr (exists_fault_of_directives h)
      · exact .inl h
  rcases hcause with ⟨cause, rfl⟩ | ⟨passes, t, rfl⟩ | ⟨d, hd⟩
  · have hnil : Unguarded (Fault.numeral cause).fragment := fun _ hc => (List.not_mem_nil hc).elim
    exact ⟨nofun, fun hne => absurd hnil hne, nofun, fun _ _ => hnil⟩
  · have hrestored : Unguarded (restoreSpans t) := ne_of_mem_restoreSpans t
    refine ⟨?_, fun hne => absurd hrestored hne, nofun, fun _ _ => hrestored⟩
    rintro passes fragment ⟨⟩
    exact hrestored
  · refine ⟨?_, fun _ => ⟨d, hd, hd.fragment_isInfix⟩, ?_, fun hs hspans => ?_⟩
    · rintro passes fragment rfl
      exact absurd hd.2 (Head.decide_ne_divergence _ _ _ _ _)
    · intro cause fragment heq
      exact ⟨d, hd, (Head.shows_of_decide hd.2).2 cause fragment heq⟩
    · exact (hd.unguarded_condition hs hspans).of_isInfix hd.fragment_isInfix

/-- The condition of a directive, a case span that is no switch. -/
def spannedCondition : List Char := "\\ON[\\UP\x7bx\x7d]\x7ba\x7d".toList

/-- The guards of a case span in a condition are shown as they are. -/
theorem outcomes_unguarded_spannedCondition :
    (Engine.open {} {}).expand none spannedCondition =
        .error (.malformed .switchReference "\\UP\ue000x\ue001".toList) ∧
      ∃ d, ArisesFrom {} ((Engine.open {} {}).scopeOr none) '\\' spannedCondition
        (.malformed .switchReference "\\UP\ue000x\ue001".toList) d ∧
        "\\UP\ue000x\ue001".toList = d.condition := by
  have hexpand : (Engine.open {} {}).expand none spannedCondition =
      .error (.malformed .switchReference "\\UP\ue000x\ue001".toList) := rfl
  obtain ⟨-, hfault⟩ := outcomes_unguarded (Engine.open {} {}) none spannedCondition
  obtain ⟨-, -, -, hmalformed, -⟩ := hfault _ (.inl hexpand)
  exact ⟨hexpand, hmalformed _ _ rfl⟩

/-- Fragments may hold guards, though the text, the names of the state and the escape character are
free of them. -/
theorem not_outcomes_unguarded :
    ¬ ∀ (st : State) (settings : Settings) (scope : Option Scope) (s : List Char),
      Unguarded s → (∀ name ∈ st.names, Unguarded name) → Unguarded [settings.escape] →
      ∀ fault, (Engine.open st settings).expand scope s = .error fault →
        Unguarded fault.message ∧ Unguarded fault.fragment := by
  intro h
  obtain ⟨-, hfragment⟩ := h {} {} none spannedCondition (by decide) (by decide) (by decide)
    (.malformed .switchReference "\\UP\ue000x\ue001".toList) rfl
  exact absurd hfragment (by decide)

end Engine
end DialogueMarkup
