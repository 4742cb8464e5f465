import DialogueMarkup.Proofs.Chains
import DialogueMarkup.Settings

/-! Settings that change while an engine is open. Directives keep to the escape character and the
ceiling that the engine was opened with, so it does what an engine opened anew would do only if
both are what they were: the escape character but for its case, and the ceiling but for how far it
is below zero. Every other change comes to light on some text. -/
namespace DialogueMarkup
open Text Markup

/-! Escape characters that are the same letter. -/

namespace Markup
variable {a b : Char} (h : sameLetter a b = true)
include h

theorem readEscape_congr : readEscape a = readEscape b := by
  have hsame (c : Char) : sameLetter a c = sameLetter b c := by
    rw [sameLetter, sameLetter, beq_iff_eq.mp h]
  funext s
  cases s with
  | nil => rfl
  | cons c s => rw [readEscape, readEscape, hsame]

theorem readCode_congr (name : List Char) : readCode a name = readCode b name := by
  funext s
  simp only [readCode, readEscape_congr h]

theorem readDirective_congr : readDirective a = readDirective b := by
  funext s
  simp only [readDirective, readHead, readEscape_congr h]

theorem guardSpans_congr : guardSpans a = guardSpans b := by
  have hread : readSpanOpening a = readSpanOpening b := by
    funext s
    simp only [readSpanOpening, readCode_congr h]
  funext s
  simp only [guardSpans, hread]

theorem decodeBraces_congr : decodeBraces a = decodeBraces b := by
  have hread (name : List Char) : readBare a name = readBare b name := by
    funext s
    simp only [readBare, readCode_congr h]
  funext s
  simp only [decodeBraces, hread]

end Markup

namespace Expansion

/-- Ceilings below zero are alike. -/
theorem allowance_congr {m n : Option Int} (h : m.map Int.toNat = n.map Int.toNat) :
    allowance m = allowance n := by
  funext s
  cases m <;> cases n <;> simp_all [allowance]

/-- The directives of a text do not tell the case of the escape character, nor how far a ceiling is
below zero. -/
theorem directives_congr {a b : Char} {m n : Option Int} (hescape : sameLetter a b = true)
    (hceiling : m.map Int.toNat = n.map Int.toNat) (st : State) (current : Scope) :
    directives st current a m = directives st current b n := by
  have hpass : pass? st current a = pass? st current b := by
    funext s
    simp only [pass?, readDirective_congr hescape]
  funext s
  rw [directives, directives, guardSpans_congr hescape, allowance_congr hceiling]
  exact run_eq_of_pass_eq hpass _ _ _

theorem expand_congr {a b : Char} {m n : Option Int} (hescape : sameLetter a b = true)
    (hceiling : m.map Int.toNat = n.map Int.toNat) (st : State) (current : Scope) :
    expand st current a m = expand st current b n := by
  funext s
  rw [expand, expand, directives_congr hescape hceiling, decodeBraces_congr hescape]

end Expansion

/-! What is written in the place of a mark keeps a text from coming to nothing. -/

theorem Text.replaceMarks_ne_nil {α : Type} {read : Reader α} {f : α → List Char}
    (hf : ∀ a, f a ≠ []) {s : List Char} (hs : s ≠ []) : replaceMarks read f s ≠ [] := by
  obtain ⟨c, s, rfl⟩ := List.exists_cons_of_ne_nil hs
  rw [replaceMarks_eq, pieces, List.length_cons, cuts]
  cases read (c :: s) with
  | none => simp
  | some r => simp [hf]

theorem Markup.decodeBraces_ne_nil (escape : Char) {s : List Char} (hs : s ≠ []) :
    decodeBraces escape s ≠ [] := by
  have hopened : replaceMarks (readBare escape ['B', 'O']) (fun _ => ['\x7b']) s ≠ [] :=
    replaceMarks_ne_nil (by simp) hs
  exact replaceMarks_ne_nil (by simp) hopened

namespace Engine

/-- Two engines give every text and every list of choices the same outcome. -/
def Alike (a b : Engine) : Prop :=
  ∀ scope, (∀ s, a.expand scope s = b.expand scope s ∧ a.render scope s = b.render scope s ∧
      a.isEmpty scope s = b.isEmpty scope s) ∧
    ∀ choices cancel default,
      a.filterChoices scope choices cancel default = b.filterChoices scope choices cancel default

section
variable {e e' : Engine}

/-- New settings leave an engine what it was opened with. -/
theorem opened_of_reconfigure {fields : List (Document × Document)}
    (h : e.reconfigure fields = .ok e') :
    e'.state = e.state ∧ e'.escape = e.escape ∧ e'.maxPasses = e.maxPasses := by
  obtain ⟨settings, -, rfl⟩ := map_eq_ok h
  exact ⟨rfl, rfl, rfl⟩

theorem opened_of_foldlM {updates : List (List (Document × Document))}
    (h : updates.foldlM reconfigure e = .ok e') :
    e'.state = e.state ∧ e'.escape = e.escape ∧ e'.maxPasses = e.maxPasses := by
  refine foldlM_preserves (P := fun last : Engine => last.state = e.state ∧
    last.escape = e.escape ∧ last.maxPasses = e.maxPasses) ?_ ⟨rfl, rfl, rfl⟩ h
  intro last fields next hlast hnext
  obtain ⟨hstate, hescape, hceiling⟩ := opened_of_reconfigure hnext
  exact ⟨hstate.trans hlast.1, hescape.trans hlast.2.1, hceiling.trans hlast.2.2⟩

/-- An engine is like one opened anew with its settings if these do not differ, for its directives,
from what it was opened with. -/
theorem alike_open (hescape : sameLetter e.escape e.settings.escape = true)
    (hceiling : e.maxPasses.map Int.toNat = e.settings.maxPasses.map Int.toNat) :
    e.Alike (Engine.open e.state e.settings) := by
  intro scope
  have hdirectives (s : List Char) :
      e.directives scope s = (Engine.open e.state e.settings).directives scope s :=
    congrFun (Expansion.directives_congr hescape hceiling e.state _) s
  exact outcomes_eq_of_directives_eq hdirectives (decodeBraces_congr hescape) rfl

/-- A chain of one link tells escape characters apart: it comes to nothing only under its own. -/
theorem sameLetter_of_alike (h : e.Alike (Engine.open e.state e.settings)) :
    sameLetter e.escape e.settings.escape = true := by
  cases hsame : sameLetter e.escape e.settings.escape with
  | true => rfl
  | false =>
    exfalso
    -- the directive is written with the new escape, which the engine takes for a plain character
    let s := chain e.settings.escape 1 0
    have hlinks := marks_of_isDull (fun x hx => isDull_of_mem_links (n := 1) hx) e.escape 'O'
    have hdirectives : marks (readDirective e.escape) s = [] :=
      marks_cons_eq_nil_iff.mpr ⟨opensWith_readDirective e.escape _ hsame _, hlinks.1⟩
    have hspans : marks (readSpanOpening e.escape) s = [] :=
      marks_cons_eq_nil_iff.mpr ⟨opensWith_readSpanOpening e.escape _ hsame _, hlinks.2⟩
    have hleft : e.expand none s = .ok (decodeBraces e.escape (restoreSpans s)) := by
      have hnone := Expansion.directives_of_marks_eq_nil hdirectives hspans e.state
        (e.scopeOr none) e.maxPasses
      rw [expand_eq, directives, hnone]
      rfl
    have hopened : (Engine.open e.state e.settings).expand none s =
        .ok (decodeBraces e.escape (restoreSpans s)) := ((h none).1 s).1.symm.trans hleft
    obtain ⟨hnil, -⟩ := (Expansion.expand_chain_iff _ _ _ _ _ _).mp hopened
    have hrestored : restoreSpans s ≠ [] := by simp [restoreSpans, s, chain]
    exact decodeBraces_ne_nil e.escape hrestored hnil

/-- Two bounds, either of which may be missing, are the same if the same numbers keep to them. -/
theorem eq_of_forall_le_iff {a b : Option Nat}
    (h : ∀ n, (∀ m, a = some m → n ≤ m) ↔ ∀ m, b = some m → n ≤ m) : a = b := by
  -- a number beyond a bound tells it from no bound at all
  cases a with
  | none =>
    cases b with
    | none => rfl
    | some k => exact absurd ((h (k + 1)).mp (by simp) k rfl) (by omega)
  | some k =>
    cases b with
    | none => exact absurd ((h (k + 1)).mpr (by simp) k rfl) (by omega)
    | some l =>
      have hkl : k ≤ l := (h k).mp (by simp) l rfl
      have hlk : l ≤ k := (h l).mpr (by simp) k rfl
      rw [Nat.le_antisymm hkl hlk]

/-- Chains of every length tell ceilings apart. -/
theorem ceiling_of_alike (hescape : sameLetter e.escape e.settings.escape = true)
    (h : e.Alike (Engine.open e.state e.settings)) :
    e.maxPasses.map Int.toNat = e.settings.maxPasses.map Int.toNat := by
  have hwithin (n : Nat) : (∀ m, e.maxPasses.map Int.toNat = some m → n ≤ m) ↔
      ∀ m, e.settings.maxPasses.map Int.toNat = some m → n ≤ m := by
    have hsame : Expansion.expand e.state e.state.current e.escape e.maxPasses
        (chain e.escape n 0) = Expansion.expand e.state e.state.current e.escape
          e.settings.maxPasses (chain e.escape n 0) := by
      rw [Expansion.expand_congr hescape rfl (n := e.settings.maxPasses)]
      exact ((h none).1 (chain e.escape n 0)).1
    have hleft := Expansion.expand_chain_iff e.state e.state.current e.escape e.maxPasses n []
    have hright := Expansion.expand_chain_iff e.state e.state.current e.escape
      e.settings.maxPasses n []
    rw [hsame, hright] at hleft
    simpa using hleft.symm
  exact eq_of_forall_le_iff hwithin

end

/-- However often the settings of an engine were changed, it does what an engine opened anew with
them would do if and only if the escape character is, but for its case, the one that it was opened
with, and the ceiling is too, but for how far it is below zero. Expansion, the verdict of emptiness
and the choices that are left do not follow the settings at all. -/
theorem alike_open_iff (st : State) (start : Settings)
    (updates : List (List (Document × Document))) {e : Engine}
    (h : updates.foldlM reconfigure (Engine.open st start) = .ok e) :
    (e.Alike (Engine.open st e.settings) ↔
      sameLetter start.escape e.settings.escape = true ∧
        start.maxPasses.map Int.toNat = e.settings.maxPasses.map Int.toNat) ∧
    ∀ scope, (∀ s, e.expand scope s = (Engine.open st start).expand scope s ∧
        e.isEmpty scope s = (Engine.open st start).isEmpty scope s) ∧
      ∀ choices cancel default, e.filterChoices scope choices cancel default =
        (Engine.open st start).filterChoices scope choices cancel default := by
  obtain ⟨rfl, hescape, hceiling⟩ :
      e.state = st ∧ e.escape = start.escape ∧ e.maxPasses = start.maxPasses := opened_of_foldlM h
  rw [← hescape, ← hceiling]
  refine ⟨⟨fun halike => ?_, fun hsame => alike_open hsame.1 hsame.2⟩, fun scope => ?_⟩
  · have hletter := sameLetter_of_alike halike
    exact ⟨hletter, ceiling_of_alike hletter halike⟩
  · have hdirectives (s : List Char) :
        e.directives scope s = (Engine.open e.state start).directives scope s := by
      simp only [directives, scopeOr, Engine.open, hescape, hceiling]
    exact expansions_eq_of_directives_eq hdirectives (congrArg decodeBraces hescape)

/-- An escape character in the other case and a ceiling further below zero are nothing new. -/
theorem alike_open_iff_kelvin :
    [[(.text "escape_char".toList, .text ['\u212a'])],
        [(.text "max_passes".toList, .int (-3)), (.text "grammar".toList, .bool false)]].foldlM
      reconfigure (Engine.open {} { escape := 'k', maxPasses := some 0 }) =
        .ok ⟨{}, ⟨'\u212a', some (-3), false⟩, 'k', some 0⟩ ∧
    Alike ⟨{}, ⟨'\u212a', some (-3), false⟩, 'k', some 0⟩
      (Engine.open {} ⟨'\u212a', some (-3), false⟩) := by
  have hupdates : [[(.text "escape_char".toList, .text ['\u212a'])],
        [(.text "max_passes".toList, .int (-3)), (.text "grammar".toList, .bool false)]].foldlM
      reconfigure (Engine.open {} { escape := 'k', maxPasses := some 0 }) =
        .ok ⟨{}, ⟨'\u212a', some (-3), false⟩, 'k', some 0⟩ := rfl
  have hiff := (alike_open_iff {} { escape := 'k', maxPasses := some 0 } _ hupdates).1
  exact ⟨hupdates, hiff.mpr ⟨by decide, rfl⟩⟩

/-- With a new escape character the directives under it are displayed as they are written, while the
codes under it are written out. -/
theorem not_alike_open :
    ¬ ∀ (st : State) (start : Settings) (updates : List (List (Document × Document))) (e : Engine),
      updates.foldlM reconfigure (Engine.open st start) = .ok e →
        e.Alike (Engine.open st e.settings) := by
  intro h
  have hupdates : [[(.text "escape_char".toList, .text ['#'])]].foldlM reconfigure
      (Engine.open {} {}) = .ok ⟨{}, { escape := '#' }, '\\', none⟩ := rfl
  have hrender := ((h {} {} _ _ hupdates none).1 "#ON[1]\x7bx\x7d\x7b#an egg\x7d".toList).2.1
  have hold : Engine.render ⟨{}, { escape := '#' }, '\\', none⟩ none
      "#ON[1]\x7bx\x7d\x7b#an egg\x7d".toList = .ok "#ON[1]\x7bx\x7d\x7ban egg\x7d".toList := rfl
  have hnew : (Engine.open {} { escape := '#' }).render none
      "#ON[1]\x7bx\x7d\x7b#an egg\x7d".toList = .ok "an egg".toList := rfl
  exact absurd (Except.ok.inj (hold.symm.trans (hrender.trans hnew))) (by decide)

end Engine

end DialogueMarkup
