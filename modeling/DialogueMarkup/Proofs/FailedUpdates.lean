import DialogueMarkup.Proofs.Reconfiguration
import DialogueMarkup.Proofs.Silence
import DialogueMarkup.Proofs.Tiers
import DialogueMarkup.Proofs.Unguarded

/-! Updates of settings that fail. A ceiling that is no number is found out when the escape
character has been taken over already, so that the one stays and the other is new; everything else
is as it was. An open engine goes on as before but for what it displays, and that is the same only
if the two escape characters are one letter, or both are guards, which no text has after
expansion. -/
namespace DialogueMarkup
open Document Text Markup

/-! What a fault leaves. -/

namespace Settings
variable {s left : Settings} {fields : List (Document × Document)} {fault : DataFault}

theorem applyEscape_eq_error_iff : s.applyEscape fields = .error fault ↔
    ∃ v, fieldOf? fields "escape_char".toList = some v ∧ v.display.length ≠ 1 ∧
      fault = .escapeLength v.shownText := by
  rw [applyEscape]
  cases fieldOf? fields "escape_char".toList with
  | none => simp
  | some v =>
    dsimp only
    split
    · next c hc => simp [hc]
    · next hne =>
      have hlength : v.display.length ≠ 1 := by
        intro hone
        obtain ⟨c, hc⟩ := List.length_eq_one_iff.mp hone
        exact hne c hc
      constructor
      · rintro ⟨⟩
        exact ⟨v, rfl, hlength, rfl⟩
      · rintro ⟨_, ⟨⟩, -, rfl⟩
        rfl

theorem applyMaxPasses_eq_error_iff : s.applyMaxPasses fields = .error fault ↔
    ∃ raw, fieldOf? fields "max_passes".toList = some raw ∧ raw.toInt? = .error fault := by
  rw [applyMaxPasses]
  cases fieldOf? fields "max_passes".toList with
  | none => simp
  | some raw => cases hraw : raw.toInt? <;> simp [hraw, Except.map]

/-- An update fails with nothing taken over, or with the escape character taken over. -/
theorem apply_eq_fault_iff_stages : s.apply fields = (left, some fault) ↔
    left = s ∧ s.applyEscape fields = .error fault ∨
      s.applyEscape fields = .ok left ∧ left.applyMaxPasses fields = .error fault := by
  rw [apply]
  cases hescape : s.applyEscape fields with
  | error cause => simp [eq_comm]
  | ok next =>
    dsimp only
    cases hceiling : next.applyMaxPasses fields with
    | error cause =>
      constructor
      · rintro ⟨⟩
        exact .inr ⟨rfl, hceiling⟩
      · rintro (⟨-, ⟨⟩⟩ | ⟨⟨⟩, hfault⟩)
        rw [hceiling] at hfault
        cases hfault
        rfl
    | ok last =>
      constructor
      · rintro ⟨⟩
      · rintro (⟨-, ⟨⟩⟩ | ⟨⟨⟩, hfault⟩)
        rw [hceiling] at hfault
        cases hfault

/-- An update fails for an escape that is not one character, when nothing has been taken over, or
for a ceiling that is no number, when the escape character has. -/
theorem apply_eq_fault_iff : s.apply fields = (left, some fault) ↔
    (left = s ∧ ∃ v, fieldOf? fields "escape_char".toList = some v ∧ v.display.length ≠ 1 ∧
      fault = .escapeLength v.shownText) ∨
    ((fieldOf? fields "escape_char".toList).elim (left.escape = s.escape)
        (fun v => v.display = [left.escape]) ∧ left = { s with escape := left.escape }) ∧
      ∃ raw, fieldOf? fields "max_passes".toList = some raw ∧ raw.toInt? = .error fault := by
  rw [← applyEscape_eq_error_iff, ← applyEscape_eq_ok_iff, ← applyMaxPasses_eq_error_iff]
  exact apply_eq_fault_iff_stages

end Settings

/-! Escape characters that display every text alike. -/

namespace Grammar
variable {a b : Char} (h : sameLetter a b = true)
include h

theorem readFold_congr : readFold a = readFold b := by
  funext s
  simp only [readFold, readCode_congr h]

theorem readArticle_congr : readArticle a = readArticle b := by
  funext s
  simp only [readArticle, readCode_congr h]

theorem folds_congr : folds a = folds b := by
  have harticles : foldArticles a = foldArticles b := by
    have hread : readFoldedArticle a = readFoldedArticle b := by
      funext s
      simp only [readFoldedArticle, readFold_congr h, readArticle_congr h]
    funext s
    simp only [foldArticles, hread]
  have honce : foldSpansOnce a = foldSpansOnce b := by
    have hread : readFoldedSpan a = readFoldedSpan b := by
      funext s
      simp only [readFoldedSpan, readFold_congr h]
    funext s
    simp only [foldSpansOnce, hread]
  have hspans (rounds : Nat) (s : List Char) : foldSpans a rounds s = foldSpans b rounds s := by
    induction rounds generalizing s with
    | zero => rfl
    | succ rounds ih => simp only [foldSpans, honce, ih]
  have hchars : foldChars a = foldChars b := by
    have hread : readFoldedChar a = readFoldedChar b := by
      funext s
      simp only [readFoldedChar, readFold_congr h]
    funext s
    simp only [foldChars, hread]
  funext s
  simp only [folds, harticles, hspans, hchars]

theorem articles_congr : articles a = articles b := by
  have hread : readArticleFor a = readArticleFor b := by
    funext s
    simp only [readArticleFor, readArticle_congr h]
  funext s
  simp only [articles, hread]

/-- Grammar codes do not tell the case of the escape character. -/
theorem apply_congr : apply a = apply b := by
  have hnumber (name : List Char) : readNumberCode a name = readNumberCode b name := by
    funext s
    simp only [readNumberCode, readCode_congr h]
  funext s
  simp only [apply, numberWords, ordinals, hnumber, folds_congr h, articles_congr h]

end Grammar

/-- A guard escapes nothing in a text without guards. -/
theorem Unguarded.unescaped {c : Char} (hc : c = guardOpen ∨ c = guardClose) {s : List Char}
    (hs : Unguarded s) : Unescaped c s := by
  have hbound : c ∈ bounds := mem_bounds.mpr (.inr (.inr hc))
  intro d hd
  rw [Bool.eq_false_iff]
  intro hsame
  obtain rfl := (uncased_of_mem_bounds hbound).alone d hsame
  rcases hc with rfl | rfl
  · exact (hs _ hd).1 rfl
  · exact (hs _ hd).2 rfl

/-- The code of an opening brace, a text that tells escape characters apart. -/
def braceCode (c : Char) : List Char := [c, 'B', 'O']

/-- Nothing is read in the code of a brace if nothing is read at its places, whatever the escape
character there. -/
theorem marks_braceCode {α : Type} {read : Reader α}
    (h : ∀ t ∈ [['B', 'O'], ['O'], []], ∀ d, read (d :: t) = none) (c : Char) :
    marks read (braceCode c) = [] := by
  simp only [List.forall_mem_cons] at h
  exact marks_cons_eq_nil_iff.mpr ⟨h.1 c, marks_cons_eq_nil_iff.mpr
    ⟨h.2.1 'B', marks_cons_eq_nil_iff.mpr ⟨h.2.2.1 'O', rfl⟩⟩⟩

section
variable (escape : Char)

theorem directives_braceCode (c : Char) (hc : c ≠ guardOpen ∧ c ≠ guardClose) (st : State)
    (current : Scope) (maxPasses : Option Int) :
    Expansion.directives st current escape maxPasses (braceCode c) = .ok (braceCode c) := by
  have hdirectives : marks (readDirective escape) (braceCode c) = [] := by
    refine marks_braceCode (fun t ht d => readDirective_of_opcode ?_ d) c
    revert t
    decide
  have hspans : marks (readSpanOpening escape) (braceCode c) = [] := by
    refine marks_braceCode (fun t ht d => readSpanOpening_of_names ?_ ?_ d) c
    all_goals
      revert t
      decide
  have hguards : Unguarded (braceCode c) := .cons hc (by decide)
  rw [Expansion.directives_of_marks_eq_nil hdirectives hspans, restoreSpans_of_ne hguards]

/-- The code of a brace is no grammar code. -/
theorem written_braceCode (c : Char) : Grammar.Written escape (braceCode c) := by
  refine .of_marks_eq_nil (marks_braceCode (fun t ht d => ?_) c)
  rcases readEscape_cons escape d t with he | he <;> rw [Summary.readMention, he]
  · rfl
  · simp only [List.mem_cons, List.not_mem_nil, or_false] at ht
    rcases ht with rfl | rfl | rfl <;> rfl

/-- The code of a brace is decoded under its own escape character alone. -/
theorem decodeBraces_braceCode (c : Char) : decodeBraces escape (braceCode c) =
    if sameLetter escape c then ['\x7b'] else braceCode c := by
  have hbare {name t : List Char} (d : Char) (h : readWord name t = none) :
      readBare escape name (d :: t) = none := by
    rw [readBare, readCode_of_name h]
    rfl
  have hopenings : readBare escape ['B', 'O'] ['B', 'O'] = none ∧
      readBare escape ['B', 'O'] ['O'] = none := ⟨hbare 'B' rfl, hbare 'O' rfl⟩
  cases hsame : sameLetter escape c with
  | true =>
    have hread : readBare escape ['B', 'O'] (braceCode c) = some (braceCode c, []) := by
      simp only [readBare, readCode, braceCode, readEscape, hsame]
      rfl
    have hclosing : marks (readBare escape ['B', 'C']) ['\x7b'] = [] :=
      marks_cons_eq_nil_iff.mpr ⟨hbare '\x7b' rfl, rfl⟩
    rw [decodeBraces, replaceMarks_of_some (readBare_consumes escape _) hread]
    exact replaceMarks_of_marks_eq_nil hclosing _
  | false =>
    have hopening : marks (readBare escape ['B', 'O']) (braceCode c) = [] :=
      marks_cons_eq_nil_iff.mpr ⟨opensWith_readBare escape _ c hsame _,
        marks_cons_eq_nil_iff.mpr ⟨hopenings.1, marks_cons_eq_nil_iff.mpr ⟨hopenings.2, rfl⟩⟩⟩
    have hclosing : marks (readBare escape ['B', 'C']) (braceCode c) = [] := by
      refine marks_braceCode (fun t ht d => hbare d ?_) c
      revert t
      decide
    rw [decodeBraces, replaceMarks_of_marks_eq_nil hopening,
      replaceMarks_of_marks_eq_nil hclosing]
    rfl

end

namespace Engine
variable (e : Engine) (scope : Option Scope)

theorem render_braceCode {c : Char} (hc : c ≠ guardOpen ∧ c ≠ guardClose) :
    e.render scope (braceCode c) =
      .ok (if sameLetter e.settings.escape c then ['\x7b'] else braceCode c) := by
  rw [render_eq_ok (directives_braceCode e.escape c hc _ _ _)
    (written_braceCode e.settings.escape c).apply_eq_ok, ite_self, decodeBraces_braceCode]

/-- Under a guard for the escape character nothing but the directives of a text is resolved. -/
theorem render_of_guard {e : Engine}
    (h : e.settings.escape = guardOpen ∨ e.settings.escape = guardClose) (s : List Char) :
    e.render scope s = e.directives scope s := by
  cases hd : e.directives scope s with
  | error fault =>
    rw [render, hd]
    rfl
  | ok t =>
    have hunescaped := (Expansion.unguarded_of_directives_eq_ok hd).unescaped h
    rw [render_eq_ok hd hunescaped.apply_eq_ok, ite_self, hunescaped.decodeBraces_eq_self]

/-- With another escape character in its settings an engine displays every text as before if and
only if the two are one letter, or both are guards. -/
theorem render_eq_iff (c : Char) :
    (∀ scope s, Engine.render { e with settings := { e.settings with escape := c } } scope s =
      e.render scope s) ↔
    sameLetter e.settings.escape c = true ∨
      (e.settings.escape = guardOpen ∨ e.settings.escape = guardClose) ∧
        (c = guardOpen ∨ c = guardClose) := by
  have hself (c : Char) : sameLetter c c = true := by simp [sameLetter]
  constructor
  · intro h
    cases hsame : sameLetter e.settings.escape c with
    | true => exact .inl rfl
    | false =>
      refine .inr (by_contra fun hnot => ?_)
      by_cases hc : c = guardOpen ∨ c = guardClose
      · -- the code of the old escape is decoded no more
        have hold : e.settings.escape ≠ guardOpen ∧ e.settings.escape ≠ guardClose :=
          not_or.mp fun hold => hnot ⟨hold, hc⟩
        have hrender := h none (braceCode e.settings.escape)
        have hback : sameLetter c e.settings.escape = false := by
          rw [sameLetter, BEq.comm]
          exact hsame
        rw [render_braceCode _ _ hold, render_braceCode _ _ hold, hself, hback] at hrender
        simp [braceCode] at hrender
      · have hrender := h none (braceCode c)
        rw [render_braceCode _ _ (not_or.mp hc), render_braceCode _ _ (not_or.mp hc), hself,
          hsame] at hrender
        simp [braceCode] at hrender
  · rintro (hsame | ⟨hold, hnew⟩) scope s
    · simp only [render, directives, scopeOr, Grammar.apply_congr hsame, decodeBraces_congr hsame]
    · rw [render_of_guard scope hold, render_of_guard scope hnew]
      rfl

/-- An update that fails leaves the ceiling and the grammar switch of an open engine as they were,
and the escape character too, unless the one that the update names has been taken over before the
ceiling failed. What the engine expands, takes for empty and leaves of choices is as before; what it
displays is as before for every text if and only if the two escape characters are one letter, or
both are guards. -/
theorem outcomes_of_failed_update {fields : List (Document × Document)} {left : Settings}
    {fault : DataFault} (h : e.settings.apply fields = (left, some fault)) :
    ((left = e.settings ∧ ∃ v, fieldOf? fields "escape_char".toList = some v ∧
        v.display.length ≠ 1 ∧ fault = .escapeLength v.shownText) ∨
      ((fieldOf? fields "escape_char".toList).elim (left.escape = e.settings.escape)
          (fun v => v.display = [left.escape]) ∧
        left = { e.settings with escape := left.escape }) ∧
        ∃ raw, fieldOf? fields "max_passes".toList = some raw ∧ raw.toInt? = .error fault) ∧
    (∀ scope, (∀ s, Engine.expand { e with settings := left } scope s = e.expand scope s ∧
        Engine.isEmpty { e with settings := left } scope s = e.isEmpty scope s) ∧
      ∀ choices cancel default,
        Engine.filterChoices { e with settings := left } scope choices cancel default =
          e.filterChoices scope choices cancel default) ∧
    ((∀ scope s, Engine.render { e with settings := left } scope s = e.render scope s) ↔
      sameLetter e.settings.escape left.escape = true ∨
        (e.settings.escape = guardOpen ∨ e.settings.escape = guardClose) ∧
          (left.escape = guardOpen ∨ left.escape = guardClose)) := by
  have hleft := Settings.apply_eq_fault_iff.mp h
  have heq : left = { e.settings with escape := left.escape } := by
    rcases hleft with ⟨rfl, -⟩ | ⟨⟨-, heq⟩, -⟩
    · rfl
    · exact heq
  refine ⟨hleft, fun scope => expansions_eq_of_directives_eq (fun _ => rfl) rfl, ?_⟩
  have hrender := e.render_eq_iff left.escape
  rwa [← heq] at hrender

/-- A new escape character and a ceiling that is no number. -/
def halfGood : List (Document × Document) :=
  [(.text "escape_char".toList, .text ['#']), (.text "max_passes".toList, .text ['x'])]

theorem outcomes_of_failed_update_halfGood :
    Settings.apply {} halfGood = ({ escape := '#' }, some (.numeral (.malformed ['x']))) ∧
      (∃ raw, fieldOf? halfGood "max_passes".toList = some raw ∧
        raw.toInt? = .error (.numeral (.malformed ['x']))) ∧
      ¬ ∀ scope s, Engine.render ⟨{}, { escape := '#' }, '\\', none⟩ scope s =
        (Engine.open {} {}).render scope s := by
  have happly : Settings.apply {} halfGood =
      ({ escape := '#' }, some (.numeral (.malformed ['x']))) := rfl
  obtain ⟨hleft, -, hrender⟩ := (Engine.open {} {}).outcomes_of_failed_update happly
  refine ⟨happly, ?_, fun hall => absurd (hrender.mp hall) (by decide)⟩
  rcases hleft with ⟨hsame, -⟩ | ⟨-, hraw⟩
  · exact absurd (congrArg Settings.escape hsame) (by decide)
  · exact hraw

/-- The new escape character stays, and shows in what is displayed. -/
theorem not_unchanged_of_failed_update :
    ¬ ∀ (e : Engine) (fields : List (Document × Document)) (left : Settings) (fault : DataFault),
      e.settings.apply fields = (left, some fault) → left = e.settings ∧
        ∀ scope s, Engine.render { e with settings := left } scope s = e.render scope s := by
  intro h
  obtain ⟨-, hrender⟩ := h (Engine.open {} {}) halfGood { escape := '#' }
    (.numeral (.malformed ['x'])) rfl
  have hnew : Engine.render ⟨{}, { escape := '#' }, '\\', none⟩ none "\\BO".toList =
      .ok "\\BO".toList := rfl
  have hold : (Engine.open {} {}).render none "\\BO".toList = .ok "\x7b".toList := rfl
  exact absurd (Except.ok.inj (hnew.symm.trans ((hrender none _).trans hold))) (by decide)

end Engine
end DialogueMarkup
