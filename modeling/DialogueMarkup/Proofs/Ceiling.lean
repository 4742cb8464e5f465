import DialogueMarkup.Proofs.Evaluation

/-! Expansion under a ceiling. The passes that a run starts are counted beside the run itself. A
ceiling that allows as many passes as the run without a ceiling starts changes nothing; a lower one
ends the run with the text that the allowed passes lead to. Over a well-formed text whose conditions
can all be decided, there are as many passes as directives are nested deep. -/
namespace DialogueMarkup
open Text Markup

namespace Expansion

section
variable (st : State) (current : Scope) (escape : Char)

/-- The passes that a run over a guarded text starts while `left` of them are allowed. -/
def startedWithin : Nat → List Char → Nat
  | left, s =>
    match pass? st current escape s with
    | none => 0
    | some next =>
      match left with
      | 0 => 0
      | left + 1 =>
        match next with
        | .error _ => 1
        | .ok t => startedWithin left t + 1

/-- The passes that are started for the directives of a text when no ceiling is set. -/
def started (s : List Char) : Nat :=
  startedWithin st current escape (allowance none s) (guardSpans escape s)

/-- A guarded text after a number of passes, if there are so many and none of them fails. -/
def after? : Nat → List Char → Option (List Char)
  | 0, s => some s
  | n + 1, s =>
    match pass? st current escape s with
    | some (.ok t) => after? n t
    | _ => none

end

section
variable {st : State} {current : Scope} {escape : Char} {k : Nat} {s : List Char}
  {o : Except Fault (List Char)}

/-- A run that may make the passes of the loop starts them all. -/
theorem Passes.startedWithin_eq (h : Passes st current escape k s o) {left : Nat} (hk : k ≤ left) :
    startedWithin st current escape left s = k := by
  induction h generalizing left with
  | done h => rw [startedWithin, h]
  | fault h =>
    obtain ⟨left, rfl⟩ := Nat.exists_eq_add_of_le' hk
    rw [startedWithin, h]
  | step h _ ih =>
    obtain ⟨left, rfl⟩ : ∃ n, left = n + 1 := ⟨left - 1, by omega⟩
    rw [startedWithin, h]
    exact congrArg (· + 1) (ih (Nat.le_of_succ_le_succ hk))

/-- A run that may not make all the passes of the loop ends where they run out. -/
theorem Passes.run_eq_divergence (h : Passes st current escape k s o) {left : Nat} (hk : left < k)
    (done : Nat) : ∃ t, after? st current escape left s = some t ∧
      run st current escape left done s = .error (.divergence (done + left) (restoreSpans t)) := by
  induction h generalizing left done with
  | done _ => exact absurd hk (Nat.not_lt_zero _)
  | fault h =>
    obtain rfl : left = 0 := by omega
    exact ⟨_, rfl, by rw [run, h]; rfl⟩
  | step h _ ih =>
    cases left with
    | zero => exact ⟨_, rfl, by rw [run, h]; rfl⟩
    | succ left =>
      obtain ⟨t, hafter, hrun⟩ := ih (Nat.lt_of_succ_lt_succ hk) (done + 1)
      refine ⟨t, by rw [after?, h]; exact hafter, ?_⟩
      rw [run, h]
      simpa only [Nat.add_assoc, Nat.add_comm 1] using hrun

/-- Without a ceiling the loop starts the passes that are counted and comes to the end of the
run. -/
theorem passes_started (st : State) (current : Scope) (escape : Char) (s : List Char) :
    Passes st current escape (started st current escape s) (guardSpans escape s)
      (directives st current escape none s) := by
  obtain ⟨k, o, h⟩ := exists_passes st current escape (guardSpans escape s)
  have hk : k ≤ allowance none s := by
    have hpaid := h.seven_mul_le
    rw [length_guardSpans] at hpaid
    simp only [allowance]
    omega
  rw [started, h.startedWithin_eq hk, h.directives_eq]
  exact h

end

section
variable {st : State} {current : Scope} {e : Escape} (he : e.Unguarded)
include he

/-- Where every condition can be decided, the passes over a guarded text go on until the highest
directive has given way. -/
theorem exists_passes_height {t : Tree e} (h : forM t.agenda (Head.check st current) = .ok ()) :
    ∃ o, Passes st current e.char t.height t.guarded o := by
  induction hn : t.height generalizing t with
  | zero =>
    have hnone : pass? st current e.char t.guarded = none := by
      rw [pass?_guarded st current he, if_pos hn]
    exact ⟨_, .done hnone⟩
  | succ n ih =>
    have hne : t.height ≠ 0 := by omega
    have hpass := pass?_guarded st current he t
    rw [if_neg hne] at hpass
    rw [t.agenda_eq (Head.holds st current) hne, List.forM_append] at h
    -- the heads of height one are decided in the first pass, all others in the later ones
    cases hcheck : forM (t.headsAt 1) (Head.check st current) with
    | error fault =>
      rw [hcheck] at h
      cases h
    | ok _ =>
      rw [hcheck] at h hpass
      obtain ⟨o, ho⟩ := ih h (by rw [Tree.height_reduce]; omega)
      exact ⟨o, .step hpass ho⟩

/-- As many passes are started for a well-formed text as its directives are nested deep, if every
condition in it can be decided. -/
theorem started_of_guarded {t : Tree e} {s : List Char} (hs : guardSpans e.char s = t.guarded)
    (h : ∀ head ∈ t.heads, ∃ holds, head.decide st current = .ok holds) :
    started st current e.char s = t.height := by
  have hagenda : forM t.agenda (Head.check st current) = .ok () := by
    cases hforM : forM t.agenda (Head.check st current) with
    | ok _ => rfl
    | error fault =>
      obtain ⟨head, hmem, hcheck⟩ := exists_mem_of_forM_eq_error hforM
      obtain ⟨holds, hdecide⟩ := h head ((t.mem_agenda_iff head).mp hmem)
      rw [Head.check, hdecide] at hcheck
      cases hcheck
  obtain ⟨o, ho⟩ := exists_passes_height he hagenda
  have hpaid := ho.seven_mul_le
  rw [← hs, length_guardSpans] at hpaid
  rw [started, hs]
  exact ho.startedWithin_eq (by simp only [allowance]; omega)

end

/-- A ceiling, of which a negative one counts as zero, leaves the outcome of an expansion as it is
if it allows all the passes that are started without one; otherwise the expansion fails, with the
text that the allowed passes lead to. For a text that is guarded as that of a tree is, and whose
conditions can all be decided, these passes are as many as its directives are nested deep. -/
theorem directives_of_ceiling (st : State) (current : Scope) (escape : Char) (s : List Char)
    (m : Int) :
    (started st current escape s ≤ m.toNat →
      directives st current escape (some m) s = directives st current escape none s) ∧
    (m.toNat < started st current escape s →
      ∃ t, after? st current escape m.toNat (guardSpans escape s) = some t ∧
        directives st current escape (some m) s =
          .error (.divergence m.toNat (restoreSpans t))) ∧
    ∀ (e : Escape) (t : Tree e), e.Unguarded → escape = e.char →
      guardSpans escape s = t.guarded →
      (∀ head ∈ t.heads, ∃ holds, head.decide st current = .ok holds) →
        started st current escape s = t.height := by
  have hpasses := passes_started st current escape s
  refine ⟨fun hle => hpasses.run_eq hle 0, fun hlt => ?_, ?_⟩
  · obtain ⟨t, hafter, hrun⟩ := hpasses.run_eq_divergence hlt 0
    rw [Nat.zero_add] at hrun
    exact ⟨t, hafter, hrun⟩
  · rintro e t he rfl hguarded hdecided
    exact started_of_guarded he hguarded hdecided

/-- One pass is not enough for a directive in a directive, two are. -/
theorem directives_of_ceiling_nestedTree :
    started {} ⟨1, none⟩ '\\' nestedTree.source = 2 ∧
    directives {} ⟨1, none⟩ '\\' (some 2) nestedTree.source = .ok "x\\Up\x7by\x7d\\bo".toList ∧
    directives {} ⟨1, none⟩ '\\' (some 1) nestedTree.source =
      .error (.divergence 1 "x\\oFF[1]\x7b\\Up\x7by\x7d\\bo\x7d".toList) := by
  have hguards : Escape.backslash.Unguarded := ⟨by decide, by decide⟩
  have hdecided : ∀ head ∈ nestedTree.heads, ∃ holds, head.decide {} ⟨1, none⟩ = .ok holds := by
    intro head hmem
    simp only [nestedTree, Tree.heads, List.mem_cons, List.append_nil, List.not_mem_nil,
      or_false] at hmem
    rcases hmem with rfl | rfl
    · exact ⟨true, rfl⟩
    · exact ⟨false, rfl⟩
  obtain ⟨-, hlow, hheight⟩ := directives_of_ceiling {} ⟨1, none⟩ '\\' nestedTree.source 1
  have hstarted : started {} ⟨1, none⟩ '\\' nestedTree.source = 2 :=
    hheight Escape.backslash nestedTree hguards rfl nestedTree.guardSpans_source hdecided
  obtain ⟨hhigh, -, -⟩ := directives_of_ceiling {} ⟨1, none⟩ '\\' nestedTree.source 2
  refine ⟨hstarted, (hhigh (Nat.le_of_eq hstarted)).trans rfl, ?_⟩
  obtain ⟨t, hafter, hdirectives⟩ := hlow (by rw [hstarted]; decide)
  obtain rfl := Option.some.inj hafter
  exact hdirectives

/-- A negative ceiling lets a text without directives pass. -/
theorem not_directives_of_negative_ceiling :
    ¬ ∀ (st : State) (current : Scope) (escape : Char) (s : List Char) (m : Int),
      (started st current escape s ≤ m →
        directives st current escape (some m) s = directives st current escape none s) ∧
      (m < started st current escape s →
        ∃ t, after? st current escape m.toNat (guardSpans escape s) = some t ∧
          directives st current escape (some m) s =
            .error (.divergence m.toNat (restoreSpans t))) := by
  intro h
  have hplain : directives {} ⟨1, none⟩ '\\' (some (-1)) "plain".toList = .ok "plain".toList := rfl
  obtain ⟨t, -, hfault⟩ := (h {} ⟨1, none⟩ '\\' "plain".toList (-1)).2 (by decide)
  rw [hplain] at hfault
  cases hfault

end Expansion
end DialogueMarkup
