import DialogueMarkup.Proofs.TreeCodes

/-! What expansion makes of a well-formed text: the value of its tree, or the fault of the first
condition, from the inside out, that cannot be decided. -/
namespace DialogueMarkup
open Text Markup

section
variable {α ε : Type} {check : α → Except ε Unit} {xs : List α}

theorem exists_mem_of_forM_eq_error {e : ε} (h : forM xs check = .error e) :
    ∃ x ∈ xs, check x = .error e := by
  induction xs with
  | nil => cases h
  | cons x xs ih =>
    rw [List.forM_cons] at h
    cases hx : check x with
    | error e' =>
      rw [hx] at h
      cases h
      exact ⟨x, List.mem_cons_self, hx⟩
    | ok u =>
      rw [hx] at h
      obtain ⟨y, hy, hcheck⟩ := ih h
      exact ⟨y, List.mem_cons_of_mem x hy, hcheck⟩

theorem exists_forM_eq_error {x : α} (hx : x ∈ xs) {e : ε} (h : check x = .error e) :
    ∃ e', forM xs check = .error e' := by
  induction xs with
  | nil => cases hx
  | cons y xs ih =>
    rw [List.forM_cons]
    cases hy : check y with
    | error e' => exact ⟨e', rfl⟩
    | ok u =>
      rcases List.mem_cons.mp hx with rfl | hmem
      · rw [h] at hy
        cases hy
      · exact ih hmem

theorem forM_congr_of_mem {check' : α → Except ε Unit} (h : ∀ x ∈ xs, check x = check' x) :
    forM xs check = forM xs check' := by
  induction xs with
  | nil => rfl
  | cons x xs ih =>
    rw [List.forM_cons, List.forM_cons, h x List.mem_cons_self,
      ih fun y hy => h y (List.mem_cons_of_mem x hy)]

end

namespace Markup

namespace Head

/-- The condition under a head is decided, and holds. -/
def holds (st : State) (current : Scope) (h : Head) : Bool :=
  match h.decide st current with
  | .ok holds => holds
  | .error _ => false

/-- Decides a head for its fault alone. -/
def check (st : State) (current : Scope) (h : Head) : Except Fault Unit :=
  (h.decide st current).map fun _ => ()

end Head

/-- Every condition of a tree is decided, whichever branches are taken, the innermost first and each
height from left to right. The first fault is that of the tree; without one, the branches taken make
up its value. -/
def Tree.eval {e : Escape} (st : State) (current : Scope) (t : Tree e) :
    Except Fault (List Char) := do
  forM t.agenda (Head.check st current)
  return t.value (Head.holds st current)

end Markup

namespace Expansion

section
variable (st : State) (current : Scope)

theorem choose_eq_check (d : Directive) : choose st current d =
    (d.head.check st current).map fun _ => d.branch (d.head.holds st current) := by
  rw [choose_eq, Head.check, Head.holds]
  cases d.head.decide st current <;> rfl

variable {e : Escape} (he : e.Unguarded) (t : Tree e)
include he

/-- A pass over a guarded text decides the innermost heads and reduces the tree. -/
theorem pass?_guarded : pass? st current e.char t.guarded =
    if t.height = 0 then none
    else some ((forM (t.headsAt 1) (Head.check st current)).map fun _ =>
      (t.reduce (Head.holds st current)).guarded) := by
  have hheads := Tree.map_head_marks_guarded he t
  have hempty : (marks (readDirective e.char) t.guarded).isEmpty = true ↔ t.height = 0 := by
    rw [← t.headsAt_one_eq_nil_iff, ← hheads, List.map_eq_nil_iff, List.isEmpty_iff]
  have hreplace : replaceMarksM (readDirective e.char) (choose st current) t.guarded =
      (forM (t.headsAt 1) (Head.check st current)).map fun _ =>
        (t.reduce (Head.holds st current)).guarded := by
    have hchoose := funext (choose_eq_check st current)
    rw [hchoose, replaceMarksM_checked (readDirective_consumes e.char)
      (fun d => d.head.check st current), ← hheads, List.forM_map, Tree.replaceMarks_guarded he]
  simp only [pass?, hempty, hreplace]

/-- A well-formed text without directives is left as it is under any ceiling. -/
theorem directives_of_flat {t : Tree e} (ht : t.height = 0) (maxPasses : Option Int) :
    directives st current e.char maxPasses t.source = .ok t.source := by
  have hnone : pass? st current e.char t.guarded = none := by
    rw [pass?_guarded st current he, if_pos ht]
  rw [directives, t.guardSpans_source, run, hnone]
  exact congrArg Except.ok (Tree.restoreSpans_guarded he t)

/-- The passes over a guarded text decide the heads of its tree in order, and leave the text of a
tree without directives that means the same. -/
theorem exists_passes_guarded : ∃ k, ∃ u : Tree e, u.height = 0 ∧
    u.value (Head.holds st current) = t.value (Head.holds st current) ∧
    Passes st current e.char k t.guarded
      ((forM t.agenda (Head.check st current)).map fun _ => u.source) := by
  -- every pass lowers the tree by one
  induction hn : t.height generalizing t with
  | zero =>
    have hnone : pass? st current e.char t.guarded = none := by
      rw [pass?_guarded st current he, if_pos hn]
    have hagenda : t.agenda = [] := by simp [Tree.agenda, hn]
    refine ⟨0, t, hn, rfl, ?_⟩
    rw [hagenda, ← Tree.restoreSpans_guarded he]
    exact .done hnone
  | succ n ih =>
    have hne : t.height ≠ 0 := by omega
    have hpass := pass?_guarded st current he t
    rw [if_neg hne] at hpass
    obtain ⟨k, u, hu, hvalue, hpasses⟩ :=
      ih (t.reduce (Head.holds st current)) (by rw [Tree.height_reduce]; omega)
    rw [t.agenda_eq (Head.holds st current) hne, List.forM_append]
    cases hcheck : forM (t.headsAt 1) (Head.check st current) with
    | error fault =>
      rw [hcheck] at hpass
      exact ⟨1, u, hu, by rw [hvalue, Tree.value_reduce], .fault hpass⟩
    | ok _ =>
      rw [hcheck] at hpass
      exact ⟨k + 1, u, hu, by rw [hvalue, Tree.value_reduce], .step hpass hpasses⟩

/-- Without a ceiling the directives of a well-formed text come to the text of a tree that means the
same, or to the first fault of the agenda. -/
theorem directives_source : ∃ u : Tree e, u.height = 0 ∧
    u.value (Head.holds st current) = t.value (Head.holds st current) ∧
    directives st current e.char none t.source =
      (forM t.agenda (Head.check st current)).map fun _ => u.source := by
  obtain ⟨k, u, hu, hvalue, hpasses⟩ := exists_passes_guarded st current he t
  rw [← t.guardSpans_source] at hpasses
  exact ⟨u, hu, hvalue, hpasses.directives_eq⟩

/-- The expansion of a well-formed text fails where its agenda does. -/
theorem expand_eq_error_iff (fault : Fault) :
    expand st current e.char none t.source = .error fault ↔
      forM t.agenda (Head.check st current) = .error fault := by
  obtain ⟨u, -, -, hdirectives⟩ := directives_source st current he t
  rw [expand, hdirectives]
  cases forM t.agenda (Head.check st current) <;> simp [Except.map]

/-- Without a ceiling the expansion of a well-formed text is the evaluation of its tree. -/
theorem expand_source :
    expand st current e.char none t.source = t.eval st current := by
  obtain ⟨u, hu, hvalue, hdirectives⟩ := directives_source st current he t
  have hdecode : decodeBraces e.char u.source = t.value (Head.holds st current) := by
    have h := Tree.decodeBraces_append_of_flat (Head.holds st current) hu []
    simpa [decodeBraces, replaceMarks, hvalue] using h
  rw [expand, hdirectives, Tree.eval]
  cases forM t.agenda (Head.check st current) with
  | error fault => rfl
  | ok _ => exact congrArg Except.ok hdecode

end

/-- A directive in a case span in a directive. -/
def nestedTree : Tree Escape.backslash :=
  let off : Test Escape.backslash :=
    ⟨.off, ⟨"oFF".toList, by decide⟩, ⟨['1'], forall_mem_of_all (by decide)⟩⟩
  let on : Test Escape.backslash := ⟨.on, .plain _, ⟨['2'], forall_mem_of_all (by decide)⟩⟩
  let span (body rest : Tree Escape.backslash) : Tree Escape.backslash :=
    .span .up ⟨"Up".toList, by decide⟩ body rest
  .char 'x' (by decide) <|
    .directive off
      (span (.choice on .nil (.char 'y' (by decide) .nil) .nil)
        (.code .openingBrace ⟨"bo".toList, by decide⟩ .nil))
      .nil

theorem expand_source_nestedTree : Escape.backslash.Unguarded ∧
    expand {} ⟨1, none⟩ '\\' none
      "x\\oFF[1]\x7b\\Up\x7b\\ON[2]\x7b\x7d\x7by\x7d\x7d\\bo\x7d".toList =
      .ok "x\\Up\x7by\x7d\x7b".toList := by
  have hguards : Escape.backslash.Unguarded := ⟨by decide, by decide⟩
  exact ⟨hguards, expand_source {} ⟨1, none⟩ hguards nestedTree⟩

theorem uncased_guardOpen : Uncased guardOpen := uncased_of_mem_bounds (by simp [bounds])

/-- A guard as the escape character. -/
def guardEscape : Escape := ⟨guardOpen, uncased_guardOpen.alone, by decide, by decide⟩

/-- A guard does not serve as the escape character: what is left of it becomes a brace. -/
theorem not_expand_source_of_guard : ¬ ∀ (e : Escape) (t : Tree e) (st : State) (current : Scope),
    expand st current e.char none t.source = t.eval st current := by
  intro h
  let article : Tree guardEscape := .code .article ⟨['A', 'N'], by decide⟩ .nil
  have hexpand : expand {} ⟨1, none⟩ guardOpen none article.source = .ok ['{', 'A', 'N'] := rfl
  have heval : article.eval {} ⟨1, none⟩ = .ok [guardOpen, 'A', 'N'] := rfl
  have hsame := hexpand.symm.trans ((h guardEscape article {} ⟨1, none⟩).trans heval)
  have htext : ['{', 'A', 'N'] = [guardOpen, 'A', 'N'] := Except.ok.inj hsame
  revert htext
  decide

end Expansion
end DialogueMarkup
