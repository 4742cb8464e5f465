import DialogueMarkup.Expansion
import DialogueMarkup.Proofs.Conditions
import DialogueMarkup.Proofs.Pieces

/-! The passes of an expansion as a loop without a ceiling. Every pass shortens the text, so the
loop ends before it could reach the ceiling that the length of the text sets. -/
namespace DialogueMarkup
open Text Markup

namespace Markup

/-- The head of a directive. -/
def Directive.head (d : Directive) : Head := ⟨d.escape, d.spelling, d.opcode, d.condition⟩

namespace Head

/-- Whether the condition under a head holds. -/
def decide (st : State) (current : Scope) (h : Head) : Except Fault Bool := do
  (← Condition.parse h.opcode h.condition).holds st current

/-- A head that cannot be decided has a condition that cannot be read, or one that refers to what
the state does not have. -/
theorem decide_ends (st : State) (current : Scope) (h : Head) :
    Ends (fun _ => True) (fun fault => Fault.OfReading h.condition fault ∨
      ∃ c, Condition.parse h.opcode h.condition = .ok c ∧ Fault.OfReference st c.refs fault)
      (h.decide st current) := by
  have hparse := Condition.parse_ends h.opcode h.condition
  unfold decide
  cases hc : Condition.parse h.opcode h.condition with
  | error fault =>
    rw [hc] at hparse
    exact Or.inl hparse
  | ok c =>
    rw [hc] at hparse
    exact ends_mono (fun _ _ => trivial) (fun fault hfault => Or.inr ⟨c, rfl, hfault⟩)
      (Condition.holds_ends hparse current)

/-- Deciding a head never runs out of passes. -/
theorem decide_ne_divergence (st : State) (current : Scope) (h : Head) (n : Nat) (s : List Char) :
    h.decide st current ≠ .error (.divergence n s) := by
  intro hd
  have hends := decide_ends st current h
  rw [hd] at hends
  rcases hends with (⟨cause, h⟩ | ⟨numeral, h⟩) | ⟨c, -, h⟩
  · cases h
  · cases h
  · exact h

end Head

theorem two_le_length_opcode_name (op : Opcode) : 2 ≤ op.name.length := by
  cases op <;> decide

/-- A head is read as an escape, an opcode and an argument. -/
theorem readHead_cases {escape : Char} {s rest : List Char} {head : Head}
    (h : readHead escape s = some (head, rest)) :
    ∃ t u, readEscape escape s = some (head.escape, t) ∧
      Opcode.read t = some ((head.spelling, head.opcode), u) ∧
      readArgument u = some (head.condition, rest) := by
  simp only [readHead, Option.bind_eq_bind, Option.bind_eq_some_iff, Option.pure_def,
    Option.some.injEq, Prod.mk.injEq] at h
  obtain ⟨⟨e, t⟩, ht, ⟨⟨spelling, op⟩, u⟩, hu, ⟨condition, v⟩, hv, rfl, rfl⟩ := h
  exact ⟨t, u, ht, hu, hv⟩

theorem readHead_spelling {escape : Char} {s rest : List Char} {head : Head}
    (h : readHead escape s = some (head, rest)) :
    head.spelling.length = head.opcode.name.length := by
  obtain ⟨t, u, -, hu, -⟩ := readHead_cases h
  exact (Opcode.read_eq_some hu).2

/-- A directive is read as its head, its branch, and then either a second branch or what does not
begin with a brace. -/
theorem readDirective_cases {escape : Char} {s rest : List Char} {d : Directive}
    (h : readDirective escape s = some (d, rest)) :
    ∃ t u, readHead escape s = some (d.head, t) ∧ readSpan t = some (d.whenTrue, u) ∧
      ((d.whenFalse? = none ∧ u = rest ∧ rest.head? ≠ some '{') ∨
        ∃ branch, d.whenFalse? = some branch ∧ readSpan u = some (branch, rest)) := by
  simp only [readDirective, Option.bind_eq_bind, Option.bind_eq_some_iff] at h
  obtain ⟨⟨head, t⟩, ht, ⟨whenTrue, u⟩, hu, h⟩ := h
  split at h
  · simp only [Option.bind_eq_some_iff, Option.pure_def, Option.some.injEq, Prod.mk.injEq] at h
    obtain ⟨⟨branch, v⟩, hbranch, rfl, rfl⟩ := h
    exact ⟨t, _, ht, hu, Or.inr ⟨branch, rfl, hbranch⟩⟩
  · rename_i hends
    simp only [Option.pure_def, Option.some.injEq, Prod.mk.injEq] at h
    obtain ⟨rfl, rfl⟩ := h
    refine ⟨t, u, ht, hu, Or.inl ⟨rfl, rfl, ?_⟩⟩
    intro hhead
    obtain ⟨after, hafter⟩ := List.head?_eq_some_iff.mp hhead
    exact hends after hafter

theorem readHead_of_readDirective {escape : Char} {s rest : List Char} {d : Directive}
    (h : readDirective escape s = some (d, rest)) :
    ∃ after, readHead escape s = some (d.head, after) := by
  obtain ⟨t, -, ht, -⟩ := readDirective_cases h
  exact ⟨t, ht⟩

/-- Either branch is a part of the directive as it is written. -/
theorem branch_isInfix_source (d : Directive) (holds : Bool) : d.branch holds <:+: d.source := by
  have hspan (branch : List Char) : branch <:+: spanSource branch := ⟨['{'], ['}'], rfl⟩
  cases holds with
  | true =>
    have htrue : d.whenTrue <:+: d.source :=
      ((hspan _).trans (List.infix_append _ _ _)).trans (List.suffix_cons _ _).isInfix
    exact htrue
  | false =>
    cases hf : d.whenFalse? with
    | none => simp [Directive.branch, hf]
    | some branch =>
      have hfalse : spanSource branch <:+: d.source := by
        rw [Directive.source, hf]
        exact ((List.suffix_append _ _).trans (List.suffix_cons _ _)).isInfix
      simpa [Directive.branch, hf] using (hspan branch).trans hfalse

/-- A directive takes at least seven characters beside the branch that takes its place. -/
theorem length_branch_add_seven_le {escape : Char} {s rest : List Char} {d : Directive}
    (h : readDirective escape s = some (d, rest)) (holds : Bool) :
    (d.branch holds).length + rest.length + 7 ≤ s.length := by
  obtain ⟨after, hhead⟩ := readHead_of_readDirective h
  have hspelling : d.spelling.length = d.opcode.name.length := readHead_spelling hhead
  have hname : 2 ≤ d.opcode.name.length := two_le_length_opcode_name d.opcode
  have hsource : s.length = d.source.length + rest.length := by
    rw [readDirective_eq_some h, List.length_append]
  have hbranch : (d.branch holds).length + 7 ≤ d.source.length := by
    cases holds <;> cases hf : d.whenFalse? <;>
      simp [Directive.branch, Directive.source, argumentSource, spanSource, hf] <;> omega
  omega

theorem readCode_eq_some {escape e : Char} {name s spelling rest : List Char}
    (h : readCode escape name s = some ((e, spelling), rest)) : s = e :: (spelling ++ rest) := by
  simp only [readCode, Option.bind_eq_bind, Option.bind_eq_some_iff, Option.pure_def,
    Option.some.injEq, Prod.mk.injEq] at h
  obtain ⟨⟨e', t⟩, ht, ⟨spelling', u⟩, hu, ⟨rfl, rfl⟩, rfl⟩ := h
  rw [readEscape_eq_some ht]
  exact congrArg _ (readWord_eq_some hu).1

theorem readSpanOpening_eq_some {escape : Char} {s code rest : List Char}
    (h : readSpanOpening escape s = some (code, rest)) : s = code ++ '{' :: rest := by
  simp only [readSpanOpening, Option.bind_eq_bind, Option.bind_eq_some_iff, Option.pure_def,
    Option.some.injEq, Prod.mk.injEq] at h
  obtain ⟨⟨⟨e, spelling⟩, t⟩, ht, u, hu, rfl, rfl⟩ := h
  have hs : s = e :: (spelling ++ t) := by
    cases hup : readCode escape ['U', 'P'] s with
    | none =>
      rw [hup] at ht
      exact readCode_eq_some ht
    | some r =>
      rw [hup] at ht
      cases ht
      exact readCode_eq_some hup
  have ht : t = '{' :: u := readChar_eq_some hu
  rw [hs, ht]
  simp

theorem readSpanOpening_consumes (escape : Char) : (readSpanOpening escape).Consumes := by
  intro s code rest h
  rw [readSpanOpening_eq_some h]
  simp
  omega

/-- Guards stand in the places of braces, so that a count which does not tell the one from the other
stays the same. -/
theorem countP_guardSpans {p : Char → Bool} (hopen : p guardOpen = p '{')
    (hclose : p guardClose = p '}') (escape : Char) (s : List Char) :
    (guardSpans escape s).countP p = s.countP p := by
  have hpieces (opened : List Bool) :
      (guardPieces opened (pieces (readSpanOpening escape) s)).countP p = s.countP p := by
    induction s using (readSpanOpening_consumes escape).induction generalizing opened with
    | nil => rfl
    | char c s hr ih =>
      rw [pieces_cons_of_none hr]
      unfold guardPieces
      split
      · simp [List.countP_cons, ih]
      · split
        · rename_i hbrace
          rcases opened with _ | ⟨_ | _, opened⟩ <;>
            simp [List.countP_cons, ih, hbrace, hclose]
        · simp [List.countP_cons, ih]
    | mark s code rest hr ih =>
      rw [pieces_of_some (readSpanOpening_consumes escape) hr, readSpanOpening_eq_some hr]
      simp [guardPieces, List.countP_cons, ih, hopen]
  exact hpieces []

theorem countP_restoreSpans {p : Char → Bool} (hopen : p guardOpen = p '{')
    (hclose : p guardClose = p '}') (s : List Char) : (restoreSpans s).countP p = s.countP p := by
  rw [restoreSpans, List.countP_map]
  refine congrArg (fun q => s.countP q) (funext fun c => ?_)
  simp only [Function.comp]
  split
  · next h => rw [h, hopen]
  · split
    · next h => rw [h, hclose]
    · rfl

theorem length_guardSpans (escape : Char) (s : List Char) :
    (guardSpans escape s).length = s.length := by
  have hcount := countP_guardSpans (p := fun _ => true) rfl rfl escape s
  simpa using hcount

end Markup

namespace Expansion

theorem choose_eq (st : State) (current : Scope) (d : Directive) :
    choose st current d = (d.head.decide st current).map d.branch := by
  simp only [choose, Head.decide, Directive.head]
  cases Condition.parse d.opcode d.condition with
  | error fault => rfl
  | ok c => cases hc : c.holds st current <;> simp [bind, Except.bind, hc] <;> rfl

/-- What takes the place of a directive is one of its branches. -/
theorem branch_of_choose {st : State} {current : Scope} {d : Directive} {part : List Char}
    (h : choose st current d = .ok part) : ∃ holds, part = d.branch holds := by
  rw [choose_eq] at h
  obtain ⟨holds, -, rfl⟩ := map_eq_ok h
  exact ⟨holds, rfl⟩

section
variable (st : State) (current : Scope) (escape : Char)

/-- The loop without a ceiling: from a guarded text it starts `k` passes and comes to an end. -/
inductive Passes : Nat → List Char → Except Fault (List Char) → Prop
  | done {s} (h : pass? st current escape s = none) : Passes 0 s (.ok (restoreSpans s))
  | fault {s fault} (h : pass? st current escape s = some (.error fault)) :
    Passes 1 s (.error fault)
  | step {k s t o} (h : pass? st current escape s = some (.ok t)) (rest : Passes k t o) :
    Passes (k + 1) s o

end

section
variable {st : State} {current : Scope} {escape : Char} {k : Nat} {s : List Char}
  {o : Except Fault (List Char)}

theorem marks_ne_nil_of_pass {next : Except Fault (List Char)}
    (h : pass? st current escape s = some next) : marks (readDirective escape) s ≠ [] := by
  intro hnil
  simp [pass?, hnil] at h

theorem pass_eq_some {next : Except Fault (List Char)}
    (h : pass? st current escape s = some next) :
    replaceMarksM (readDirective escape) (choose st current) s = next := by
  simp only [pass?] at h
  split at h
  · cases h
  · exact Option.some.inj h

/-- A pass shortens the text by seven characters or more for every directive in it. -/
theorem length_of_pass {t : List Char} (h : pass? st current escape s = some (.ok t)) :
    t.length + 7 * (marks (readDirective escape) s).length ≤ s.length := by
  refine measure_of_replaceMarksM (readDirective_consumes escape)
    (fun _ _ => List.length_append) ?_ (pass_eq_some h)
  intro u d rest part hread hpart
  obtain ⟨holds, rfl⟩ := branch_of_choose hpart
  exact length_branch_add_seven_le hread holds

/-- Branches are parts of their directives, so no count goes up in a pass. -/
theorem countP_of_pass (p : Char → Bool) {t : List Char}
    (h : pass? st current escape s = some (.ok t)) : t.countP p ≤ s.countP p := by
  have hcount := measure_of_replaceMarksM (readDirective_consumes escape)
    (μ := List.countP p) (fun _ _ => List.countP_append) (n := 0) ?_ (pass_eq_some h)
  · omega
  · intro u d rest part hread hpart
    obtain ⟨holds, rfl⟩ := branch_of_choose hpart
    have hbranch := (branch_isInfix_source d holds).sublist.countP_le (p := p)
    rw [readDirective_eq_some hread, List.countP_append]
    omega

/-- A text with a directive is at least seven characters long. -/
theorem seven_le_length {next : Except Fault (List Char)}
    (h : pass? st current escape s = some next) : 7 ≤ s.length := by
  have hpos := List.length_pos_iff.mpr (marks_ne_nil_of_pass h)
  have hmarks := mul_length_marks_le (readDirective_consumes escape) (n := 7)
    (fun t d rest hr => by have := length_branch_add_seven_le hr true; omega) s
  omega

/-- Passes that a loop starts are paid for by the text, seven characters each. -/
theorem Passes.seven_mul_le (h : Passes st current escape k s o) : 7 * k ≤ s.length := by
  induction h with
  | done _ => omega
  | fault h => exact seven_le_length h
  | step h _ ih =>
    have hlen := length_of_pass h
    have hpos := List.length_pos_iff.mpr (marks_ne_nil_of_pass h)
    omega

/-- The loop ends. -/
theorem exists_passes (st : State) (current : Scope) (escape : Char) (s : List Char) :
    ∃ k o, Passes st current escape k s o := by
  -- the text that a pass leaves need not be part of the one before, but it is shorter
  induction hn : s.length using Nat.strongRecOn generalizing s with
  | ind n ih =>
    cases hp : pass? st current escape s with
    | none => exact ⟨0, _, .done hp⟩
    | some next =>
      cases next with
      | error fault => exact ⟨1, _, .fault hp⟩
      | ok t =>
        have hlen := length_of_pass hp
        have hpos := List.length_pos_iff.mpr (marks_ne_nil_of_pass hp)
        obtain ⟨k, o, h⟩ := ih t.length (by omega) t rfl
        exact ⟨k + 1, o, .step hp h⟩

/-- A run that may make the passes of the loop ends like the loop. -/
theorem Passes.run_eq (h : Passes st current escape k s o) {left : Nat} (hk : k ≤ left)
    (done : Nat) : run st current escape left done s = o := by
  induction h generalizing left done with
  | done h => rw [run, h]
  | fault h =>
    obtain ⟨left, rfl⟩ := Nat.exists_eq_add_of_le' hk
    rw [run, h]
  | step h _ ih =>
    obtain ⟨left, rfl⟩ : ∃ n, left = n + 1 := ⟨left - 1, by omega⟩
    rw [run, h]
    exact ih (by omega) (done + 1)

/-- The loop never complains of its passes. -/
theorem Passes.ne_divergence (h : Passes st current escape k s o) (n : Nat) (t : List Char) :
    o ≠ .error (.divergence n t) := by
  induction h with
  | done _ => intro ho; cases ho
  | fault h =>
    intro ho
    cases ho
    obtain ⟨d, -, hd⟩ :=
      exists_mark_of_replaceMarksM_error (readDirective_consumes escape) (pass_eq_some h)
    rw [choose_eq] at hd
    exact Head.decide_ne_divergence st current d.head n t (map_eq_error hd)
  | step _ _ ih => exact ih

/-- Without a ceiling the directives of a text come to the end of its loop. -/
theorem Passes.directives_eq (h : Passes st current escape k (guardSpans escape s) o) :
    directives st current escape none s = o := by
  have hk := h.seven_mul_le
  rw [length_guardSpans] at hk
  exact h.run_eq (by simp only [allowance]; omega) 0

end

/-- Nor does it in any number of passes, unless it tells braces from guards. -/
theorem countP_of_directives {p : Char → Bool} (hopen : p guardOpen = p '{')
    (hclose : p guardClose = p '}') {st : State} {current : Scope} {escape : Char}
    {maxPasses : Option Int} {s t : List Char}
    (h : directives st current escape maxPasses s = .ok t) : t.countP p ≤ s.countP p := by
  have hrun (left done : Nat) (s : List Char) (h : run st current escape left done s = .ok t) :
      t.countP p ≤ s.countP p := by
    fun_induction run st current escape left done s with
    | case1 left done s hnone =>
      cases h
      exact Nat.le_of_eq (countP_restoreSpans hopen hclose s)
    | case2 done s next hsome => cases h
    | case3 done s left fault hsome => cases h
    | case4 done s left u hsome ih => exact Nat.le_trans (ih h) (countP_of_pass p hsome)
  exact countP_guardSpans hopen hclose escape s ▸ hrun _ _ _ h

/-- What is the same in one pass is the same in any number of them. -/
theorem run_eq_of_pass_eq {a b : State} {here there : Scope} {escape other : Char}
    (h : pass? a here escape = pass? b there other) (left done : Nat) (s : List Char) :
    run a here escape left done s = run b there other left done s := by
  induction left generalizing done s with
  | zero => rw [run, run, h]
  | succ left ih =>
    rw [run, run, h]
    cases pass? b there other s with
    | none => rfl
    | some next =>
      cases next with
      | error fault => rfl
      | ok t => exact ih (done + 1) t

/-- States that take the same branches are not told apart by any number of passes. -/
theorem run_eq_of_choose_eq {a b : State} {scope : Scope}
    (h : choose a scope = choose b scope) (escape : Char) (left done : Nat) (s : List Char) :
    run a scope escape left done s = run b scope escape left done s := by
  apply run_eq_of_pass_eq
  funext t
  simp only [pass?, h]

/-- Without a ceiling the expansion of any text ends and never for want of passes: every pass
shortens the guarded text by seven characters for each directive in it, and fewer passes are
started than the allowance holds. -/
theorem directives_terminate (st : State) (current : Scope) (escape : Char) (s : List Char) :
    (∀ t u, pass? st current escape t = some (.ok u) →
      u.length + 7 * (marks (readDirective escape) t).length ≤ t.length) ∧
    (guardSpans escape s).length = s.length ∧
    ∃ k o, Passes st current escape k (guardSpans escape s) o ∧ k < max s.length 1 ∧
      directives st current escape none s = o ∧ ∀ n t, o ≠ .error (.divergence n t) := by
  refine ⟨fun t u h => length_of_pass h, length_guardSpans escape s, ?_⟩
  obtain ⟨k, o, h⟩ := exists_passes st current escape (guardSpans escape s)
  have hk := h.seven_mul_le
  rw [length_guardSpans] at hk
  exact ⟨k, o, h, by omega, h.directives_eq, h.ne_divergence⟩

end Expansion
end DialogueMarkup
