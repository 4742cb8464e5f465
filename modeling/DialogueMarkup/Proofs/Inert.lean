import DialogueMarkup.Engine
import DialogueMarkup.Proofs.Settling

/-! Inert texts: no reader of the markup finds anything in them. Every stage of expansion and of
rendering leaves them as they are, but for the guards of case spans: those are taken for braces
wherever they stand. -/
namespace DialogueMarkup
open Text Markup

namespace Markup

/-- Without case spans there is nothing to guard. -/
theorem guardPieces_of_chars {opened : List Bool} (h : ∀ ofSpan ∈ opened, ofSpan = false)
    (s : List Char) : guardPieces opened (s.map .char) = s := by
  induction s generalizing opened with
  | nil => rfl
  | cons c s ih =>
    simp only [List.map_cons, guardPieces]
    split
    · have hopened : ∀ ofSpan ∈ false :: opened, ofSpan = false := by simpa using h
      rw [ih hopened]
    · split
      · cases opened with
        | nil => rw [ih h]
        | cons ofSpan opened =>
          obtain ⟨rfl, hopened⟩ := List.forall_mem_cons.mp h
          simp [ih hopened]
      · rw [ih h]

theorem guardSpans_of_marks_eq_nil {escape : Char} {s : List Char}
    (hs : marks (readSpanOpening escape) s = []) : guardSpans escape s = s := by
  rw [guardSpans, pieces_of_marks_eq_nil hs]
  exact guardPieces_of_chars (by simp) s

theorem restoreSpans_eq_self_iff {s : List Char} :
    restoreSpans s = s ↔ guardOpen ∉ s ∧ guardClose ∉ s := by
  constructor
  · intro h
    have hne := ne_of_mem_restoreSpans s
    rw [h] at hne
    exact ⟨fun hmem => (hne _ hmem).1 rfl, fun hmem => (hne _ hmem).2 rfl⟩
  · rintro ⟨hopen, hclose⟩
    apply restoreSpans_of_ne
    intro c hc
    exact ⟨ne_of_mem_of_not_mem hc hopen, ne_of_mem_of_not_mem hc hclose⟩

end Markup

/-- No ceiling matters to a text without directives. -/
theorem Expansion.directives_of_marks_eq_nil {escape : Char} {s : List Char}
    (hdirectives : marks (readDirective escape) s = [])
    (hspans : marks (readSpanOpening escape) s = []) (st : State) (current : Scope)
    (maxPasses : Option Int) :
    directives st current escape maxPasses s = .ok (restoreSpans s) := by
  have hnone : pass? st current escape s = none := by simp [pass?, hdirectives]
  rw [directives, guardSpans_of_marks_eq_nil hspans, run, hnone]

/-- A text with nothing to resolve, to write out or to decode. -/
structure Inert (escape : Char) (s : List Char) : Prop extends Grammar.Written escape s where
  directives : marks (readDirective escape) s = []
  spans : marks (readSpanOpening escape) s = []
  openings : marks (readBare escape ['B', 'O']) s = []
  closings : marks (readBare escape ['B', 'C']) s = []

namespace Inert
variable {escape : Char} {s : List Char} (h : Inert escape s)
include h

theorem decodeBraces_eq_self : decodeBraces escape s = s := by
  rw [decodeBraces, replaceMarks_of_marks_eq_nil h.openings,
    replaceMarks_of_marks_eq_nil h.closings]

theorem directives_eq (st : State) (current : Scope) (maxPasses : Option Int) :
    Expansion.directives st current escape maxPasses s = .ok (restoreSpans s) :=
  Expansion.directives_of_marks_eq_nil h.directives h.spans st current maxPasses

/-- Without guards an inert text is both what it expands to and what is displayed. -/
theorem outcomes_eq (st : State) {settings : Settings} (hescape : settings.escape = escape)
    (scope : Option Scope) (hguards : guardOpen ∉ s ∧ guardClose ∉ s) :
    (Engine.open st settings).expand scope s = .ok s ∧
      (Engine.open st settings).render scope s = .ok s := by
  subst hescape
  have hdirectives : (Engine.open st settings).directives scope s = .ok s := by
    have hres := h.directives_eq st ((Engine.open st settings).scopeOr scope) settings.maxPasses
    rwa [restoreSpans_eq_self_iff.mpr hguards] at hres
  have hdecode : decodeBraces settings.escape s = s := h.decodeBraces_eq_self
  constructor
  · rw [Engine.expand_eq, hdirectives]
    exact congrArg Except.ok hdecode
  · -- with grammar and without it, all that is left to do is the decoding
    rw [Engine.render_eq_ok hdirectives h.apply_eq_ok, ite_self]
    exact congrArg Except.ok hdecode

end Inert

end DialogueMarkup
