import DialogueMarkup.Proofs.Inert

/-! Text in which no escape occurs. Every reader of the markup begins with the escape, so that such a
text is inert. -/
namespace DialogueMarkup
open Text Markup

/-- No character of a text is the escape, in any case. -/
def Unescaped (escape : Char) (s : List Char) : Prop := ∀ c ∈ s, sameLetter escape c = false

/-- A reader that finds nothing at a character other than the escape. -/
def OpensWith (escape : Char) {α : Type} (read : Reader α) : Prop :=
  ∀ c, sameLetter escape c = false → ∀ s, read (c :: s) = none

theorem unescaped_backslash_iff {s : List Char} : Unescaped '\\' s ↔ '\\' ∉ s := by
  constructor
  · intro h hmem
    exact absurd (h _ hmem) (by decide)
  · intro h c hc
    rw [Bool.eq_false_iff]
    intro hsame
    exact h (uncased_backslash.alone c hsame ▸ hc)

/-- An unescaped text adds no marks to those of what follows. -/
theorem Unescaped.marks_append {escape : Char} {α : Type} {read : Reader α}
    (hread : OpensWith escape read) {s t : List Char} (hs : Unescaped escape s)
    (ht : marks read t = []) : marks read (s ++ t) = [] := by
  induction s with
  | nil => exact ht
  | cons c s ih =>
    obtain ⟨hc, hrest⟩ := List.forall_mem_cons.mp hs
    exact marks_cons_eq_nil_iff.mpr ⟨hread c hc (s ++ t), ih hrest⟩

theorem Unescaped.marks_eq_nil {escape : Char} {α : Type} {read : Reader α}
    (hread : OpensWith escape read) {s : List Char} (hs : Unescaped escape s) :
    marks read s = [] := by
  have hmarks := hs.marks_append hread (t := []) rfl
  rwa [List.append_nil] at hmarks

/-! The readers of the markup. -/

/-- What is read after something else begins where that begins. -/
theorem OpensWith.bind {escape : Char} {α β : Type} {read : Reader α} (h : OpensWith escape read)
    (next : α × List Char → Option (β × List Char)) :
    OpensWith escape fun s => read s >>= next := by
  intro c hc s
  show (read (c :: s) >>= next) = none
  rw [h c hc]
  rfl

section
variable (escape : Char)

theorem opensWith_readEscape : OpensWith escape (readEscape escape) := by
  intro c hc s
  simp [readEscape, hc]

theorem opensWith_readCode (name : List Char) : OpensWith escape (readCode escape name) :=
  (opensWith_readEscape escape).bind _

theorem opensWith_readSpanOpening : OpensWith escape (readSpanOpening escape) := by
  intro c hc s
  simp [readSpanOpening, opensWith_readCode escape _ c hc]

theorem opensWith_readDirective : OpensWith escape (readDirective escape) := by
  have hhead : OpensWith escape (readHead escape) := (opensWith_readEscape escape).bind _
  exact hhead.bind _

theorem opensWith_readBare (name : List Char) : OpensWith escape (readBare escape name) := by
  intro c hc s
  simp [readBare, opensWith_readCode escape _ c hc]

end

namespace Grammar
variable (escape : Char)

theorem opensWith_readNumberCode (name : List Char) :
    OpensWith escape (readNumberCode escape name) :=
  (opensWith_readCode escape name).bind _

theorem opensWith_readArticleFor : OpensWith escape (readArticleFor escape) := by
  have harticle : OpensWith escape (readArticle escape) := (opensWith_readCode escape _).bind _
  exact harticle.bind _

theorem opensWith_readFold : OpensWith escape (readFold escape) := by
  intro c hc s
  simp [readFold, opensWith_readCode escape _ c hc]

theorem opensWith_readFoldedArticle : OpensWith escape (readFoldedArticle escape) :=
  (opensWith_readFold escape).bind _

theorem opensWith_readFoldedSpan : OpensWith escape (readFoldedSpan escape) :=
  (opensWith_readFold escape).bind _

theorem opensWith_readFoldedChar : OpensWith escape (readFoldedChar escape) :=
  (opensWith_readFold escape).bind _

end Grammar

namespace Unescaped
variable {escape : Char} {s : List Char} (hs : Unescaped escape s)
include hs

theorem inert : Inert escape s where
  cardinals := hs.marks_eq_nil (Grammar.opensWith_readNumberCode escape _)
  ordinalWords := hs.marks_eq_nil (Grammar.opensWith_readNumberCode escape _)
  ordinals := hs.marks_eq_nil (Grammar.opensWith_readNumberCode escape _)
  foldedArticles := hs.marks_eq_nil (Grammar.opensWith_readFoldedArticle escape)
  foldedSpans := hs.marks_eq_nil (Grammar.opensWith_readFoldedSpan escape)
  foldedChars := hs.marks_eq_nil (Grammar.opensWith_readFoldedChar escape)
  articles := hs.marks_eq_nil (Grammar.opensWith_readArticleFor escape)
  directives := hs.marks_eq_nil (opensWith_readDirective escape)
  spans := hs.marks_eq_nil (opensWith_readSpanOpening escape)
  openings := hs.marks_eq_nil (opensWith_readBare escape _)
  closings := hs.marks_eq_nil (opensWith_readBare escape _)

theorem directives_eq (st : State) (current : Scope) (maxPasses : Option Int) :
    Expansion.directives st current escape maxPasses s = .ok (restoreSpans s) :=
  hs.inert.directives_eq st current maxPasses

theorem decodeBraces_eq_self : decodeBraces escape s = s := hs.inert.decodeBraces_eq_self

theorem apply_eq_ok : Grammar.apply escape s = .ok s := hs.inert.apply_eq_ok

end Unescaped

/-- A text without escapes comes out of expansion and of rendering with braces in the place of the
guards; so it comes out as it is, if and only if it holds no guard. -/
theorem Engine.outcomes_of_unescaped (st : State) (settings : Settings) (scope : Option Scope)
    {s : List Char} (hs : Unescaped settings.escape s)
    (hrestored : Unescaped settings.escape (restoreSpans s)) :
    (Engine.open st settings).expand scope s = .ok (restoreSpans s) ∧
    (Engine.open st settings).render scope s = .ok (restoreSpans s) ∧
    (restoreSpans s = s ↔ guardOpen ∉ s ∧ guardClose ∉ s) := by
  have hdirectives : (Engine.open st settings).directives scope s = .ok (restoreSpans s) :=
    hs.directives_eq st _ settings.maxPasses
  have hdecode : decodeBraces settings.escape (restoreSpans s) = restoreSpans s :=
    hrestored.decodeBraces_eq_self
  refine ⟨?_, ?_, restoreSpans_eq_self_iff⟩
  · show ((Engine.open st settings).directives scope s).map (decodeBraces settings.escape) = _
    rw [hdirectives]
    exact congrArg Except.ok hdecode
  · -- with grammar and without it, all that is left to do is the decoding
    rw [Engine.render_eq_ok hdirectives hrestored.apply_eq_ok, ite_self]
    exact congrArg Except.ok hdecode

/-- An icon from the private characters is no guard. -/
theorem Engine.outcomes_of_unescaped_icon :
    (Engine.open {} {}).expand none "\x7b[\ue002] x".toList = .ok "\x7b[\ue002] x".toList ∧
    (Engine.open {} {}).render none "\x7b[\ue002] x".toList = .ok "\x7b[\ue002] x".toList := by
  have hs : Unescaped '\\' "\x7b[\ue002] x".toList := by
    rw [unescaped_backslash_iff]
    decide
  have hsame : restoreSpans "\x7b[\ue002] x".toList = "\x7b[\ue002] x".toList := by decide
  obtain ⟨hexpand, hrender, -⟩ :=
    Engine.outcomes_of_unescaped {} {} none hs (by rw [hsame]; exact hs)
  rw [hsame] at hexpand hrender
  exact ⟨hexpand, hrender⟩

/-- A guard in a text without escapes comes out as a brace. -/
theorem Engine.not_outcomes_of_guard :
    ¬ ∀ (st : State) (scope : Option Scope) (s : List Char), '\\' ∉ s →
      (Engine.open st {}).expand scope s = .ok s ∧ (Engine.open st {}).render scope s = .ok s := by
  intro h
  have hexpand : (Engine.open {} {}).expand none [guardOpen] = .ok ['\x7b'] := rfl
  have hsame := (h {} none [guardOpen] (by decide)).1
  rw [hexpand] at hsame
  exact absurd (Except.ok.inj hsame) (by decide)

end DialogueMarkup
