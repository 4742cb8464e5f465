import Mathlib.Logic.Equiv.Basic
import DialogueMarkup.Proofs.RespelledGrammar
import DialogueMarkup.Proofs.RespelledSummary

/-! The escape character is only a name. A text that is spelled with another escape character is
expanded, displayed and summed up as it was, in the new spelling. Two renamings show it: one swaps
the two characters and carries every stage along; the other takes the new character to a third one
and leaves a text that is free of it alone, so that no stage brings the new character into it. -/
namespace DialogueMarkup
open Text Markup

/-- A text with one character in the place of another. -/
def respell (a b : Char) (s : List Char) : List Char := s.map fun c => if c = a then b else c

section
variable {a b : Char} {s : List Char}

theorem respell_eq_self (h : a ∉ s) : respell a b s = s := by
  have hsame : ∀ c ∈ s, (if c = a then b else c) = c := by
    intro c hc
    have hca : c ≠ a := fun hca => h (hca ▸ hc)
    exact if_neg hca
  rw [respell, List.map_congr_left hsame, List.map_id']

theorem not_mem_respell (h : a ≠ b) : a ∉ respell a b s := by
  rw [respell, List.mem_map]
  rintro ⟨c, -, hc⟩
  split at hc
  · exact h hc.symm
  · next hca => exact hca hc

/-- In a text without the new character, putting it in the place of the old one swaps the two. -/
theorem map_swap_eq_respell (h : a ≠ b → b ∉ s) : s.map (Equiv.swap a b) = respell a b s := by
  apply List.map_congr_left
  intro c hc
  rw [Equiv.swap_apply_def]
  by_cases hca : c = a
  · rw [if_pos hca, if_pos hca]
  · have hcb : c ≠ b := fun hcb => h (fun hab => hca (hcb.trans hab.symm)) (hcb ▸ hc)
    rw [if_neg hca, if_neg hca, if_neg hcb]

end

/-! The two renamings. -/

theorem sameLetter_iff_of_mem_escapeSigns {a : Char} (ha : a ∈ escapeSigns) (c : Char) :
    sameLetter a c = true ↔ c = a := by
  have hself : ∀ x ∈ escapeSigns, sameLetter x x = true := by decide
  exact ⟨escapeSigns_alone ha, fun h => h ▸ hself a ha⟩

section
variable {a b : Char} (ha : a ∈ escapeSigns) (hb : b ∈ escapeSigns)

/-- Two escape characters change places. -/
def Respelling.swap : Respelling where
  map := Equiv.swap a b
  before := a
  after := b
  moves := by
    constructor
    · intro c hc
      rw [Equiv.swap_apply_def]
      split
      · exact hb
      · split
        · exact ha
        · exact hc
    · intro c hc
      exact Equiv.swap_apply_of_ne_of_ne (fun h => hc (h ▸ ha)) fun h => hc (h ▸ hb)
  same := by
    intro c
    rw [Bool.eq_iff_iff, sameLetter_iff_of_mem_escapeSigns hb, sameLetter_iff_of_mem_escapeSigns ha,
      Equiv.swap_apply_eq_iff, Equiv.swap_apply_right]

/-- A sign that is not the escape character gives way to a third one. -/
def Respelling.dismiss {c : Char} (hc : c ∈ escapeSigns) (hab : a ≠ b) (hac : a ≠ c) :
    Respelling where
  map := fun d => if d = b then c else d
  before := a
  after := a
  moves := by
    constructor
    · intro d hd
      split
      · exact hc
      · exact hd
    · intro d hd
      have hdb : d ≠ b := fun h => hd (h ▸ hb)
      exact if_neg hdb
  same := by
    intro d
    rw [Bool.eq_iff_iff, sameLetter_iff_of_mem_escapeSigns ha, sameLetter_iff_of_mem_escapeSigns ha]
    split
    · next h => exact ⟨fun hca => absurd hca.symm hac, fun hda => absurd (hda.symm.trans h) hab⟩
    · rfl

/-! No stage brings another sign into its text. -/

section
variable (hab : a ≠ b) {s : List Char} (hs : b ∉ s)
include ha hb hab hs

/-- Some respelling keeps the escape character and the text, and leaves the sign in no text. -/
theorem exists_dismissal : ∃ ρ : Respelling, ρ.before = a ∧ ρ.after = a ∧ s.map ρ.map = s ∧
    ∀ r : List Char, b ∉ r.map ρ.map := by
  have hthird : ∀ a ∈ escapeSigns, ∀ b ∈ escapeSigns,
      escapeSigns.filter (fun c => a ≠ c ∧ b ≠ c) ≠ [] := by decide
  obtain ⟨c, hmem⟩ := List.exists_mem_of_ne_nil _ (hthird a ha b hb)
  obtain ⟨hc, hne⟩ := List.mem_filter.mp hmem
  obtain ⟨hac, hbc⟩ := of_decide_eq_true hne
  exact ⟨.dismiss ha hb hc hab hac, rfl, rfl, respell_eq_self hs, fun r => not_mem_respell hbc⟩

theorem not_mem_decodeBraces : b ∉ decodeBraces a s := by
  obtain ⟨ρ, hbefore, hafter, hsame, hdismissed⟩ := exists_dismissal ha hb hab hs
  have hmap := ρ.decodeBraces_map s
  rw [hbefore, hafter, hsame] at hmap
  rw [hmap]
  exact hdismissed _

theorem not_mem_of_apply_eq_ok {r : List Char} (h : Grammar.apply a s = .ok r) : b ∉ r := by
  obtain ⟨ρ, hbefore, hafter, hsame, hdismissed⟩ := exists_dismissal ha hb hab hs
  have hmap := ρ.grammar_map s
  rw [hbefore, hafter, hsame, h] at hmap
  rw [Except.ok.inj hmap]
  exact hdismissed r

end

include hb in
/-- Branches are parts of their text, and neither braces nor guards are signs. -/
theorem not_mem_of_directives_eq_ok {st : State} {current : Scope} {maxPasses : Option Int}
    {s t : List Char} (hs : b ∉ s)
    (h : Expansion.directives st current a maxPasses s = .ok t) : b ∉ t := by
  have hguards : ∀ b ∈ escapeSigns,
      (guardOpen == b) = ('{' == b) ∧ (guardClose == b) = ('}' == b) := by decide
  have hcount := Expansion.countP_of_directives (p := fun c => c == b) (hguards b hb).1
    (hguards b hb).2 h
  have hzero : s.countP (fun c => c == b) = 0 := List.count_eq_zero.mpr hs
  exact List.count_eq_zero.mp (Nat.le_zero.mp (hzero ▸ hcount))

end

/-! Names without the two characters are looked up alike. -/

theorem Table.get?_map_swap {υ : Type} {a b : Char} {t : Table (List Char) υ}
    (h : ∀ name ∈ t.map Prod.fst, a ∉ name ∧ b ∉ name) (s : List Char) :
    t.get? (s.map (Equiv.swap a b)) = t.get? s := by
  have hfixed {s : List Char} {v : υ} (hs : t.get? s = some v) : s.map (Equiv.swap a b) = s := by
    obtain ⟨ha, hb⟩ := h s (Table.mem_map_fst_of_get? hs)
    rw [map_swap_eq_respell fun _ => hb, respell_eq_self ha]
  have htwice : (s.map (Equiv.swap a b)).map (Equiv.swap a b) = s := by
    have hself : Equiv.swap a b ∘ Equiv.swap a b = id := funext (Equiv.swap_apply_self a b)
    rw [List.map_map, hself, List.map_id]
  cases hs : t.get? s with
  | some v => rw [hfixed hs, hs]
  | none =>
    cases hswapped : t.get? (s.map (Equiv.swap a b)) with
    | none => rfl
    | some v =>
      -- a name that is found is its own swap, so the text would have been found
      have hsame := hfixed hswapped
      rw [htwice] at hsame
      rw [← hsame, hs] at hswapped
      cases hswapped

theorem keeps_swap {a b : Char} {st : State}
    (h : ∀ name ∈ st.names, a ∉ name ∧ b ∉ name) : Renaming.Keeps (Equiv.swap a b) st where
  containers := Table.get?_map_swap fun name hname => h name (List.mem_append_left _ hname)
  contexts := Table.get?_map_swap fun name hname => h name (List.mem_append_right _ hname)

/-! Engines that differ in their escape characters. -/

namespace Respelling
variable (ρ : Respelling) {st : State} (hst : Renaming.Keeps ρ.map st) (settings : Settings)
  (scope : Option Scope) (s : List Char)
include hst

theorem expand_map :
    (Engine.open st { settings with escape := ρ.after }).expand scope (s.map ρ.map) =
      renamedOutcome (Fault.renamed ρ.map) (List.map ρ.map)
        ((Engine.open st { settings with escape := ρ.before }).expand scope s) := by
  have hdirectives := ρ.directives_map hst (scope.getD st.current) settings.maxPasses s
  simp only [Engine.expand, Engine.open, Engine.scopeOr, Expansion.expand, hdirectives]
  cases Expansion.directives st (scope.getD st.current) ρ.before settings.maxPasses s with
  | error fault => rfl
  | ok t => exact congrArg Except.ok (ρ.decodeBraces_map t)

theorem render_map :
    (Engine.open st { settings with escape := ρ.after }).render scope (s.map ρ.map) =
      renamedOutcome (Fault.renamed ρ.map) (List.map ρ.map)
        ((Engine.open st { settings with escape := ρ.before }).render scope s) := by
  refine bind_renamedOutcome
    (ρ.directives_map hst (scope.getD st.current) settings.maxPasses s) fun t _ => ?_
  by_cases hgrammar : settings.grammar = true
  · simp only [Engine.open, hgrammar, if_true]
    refine bind_renamedOutcome (g := List.map ρ.map) ?_ fun u _ =>
      congrArg Except.ok (ρ.decodeBraces_map u)
    rw [ρ.grammar_map]
    cases Grammar.apply ρ.before t <;> rfl
  · simp only [Engine.open, hgrammar]
    exact congrArg Except.ok (ρ.decodeBraces_map t)

end Respelling

/-- Faults of one class, which the title names; numerals that are too long have none. -/
def SameTitle (fault fault' : Fault) : Prop := fault'.title? = fault.title?

/-- A respelled outcome, if its text is free of the new character. -/
theorem outcomeRel_of_renamedOutcome {a b : Char} {x : Except Fault (List Char)}
    (h : ∀ r, x = .ok r → a ≠ b → b ∉ r) :
    OutcomeRel SameTitle (fun r r' => r' = respell a b r) x
      (renamedOutcome (Fault.renamed (Equiv.swap a b)) (List.map (Equiv.swap a b)) x) := by
  cases x with
  | ok r => exact .ok (map_swap_eq_respell (h r rfl))
  | error fault => exact .error (fault.title?_renamed _)

namespace Engine

section
variable {a b : Char} (ha : a ∈ escapeSigns) (hb : b ∈ escapeSigns) (hab : a ≠ b) {st : State}
  {settings : Settings} {scope : Option Scope} {s r : List Char} (hs : b ∉ s)
include ha hb hab hs

theorem not_mem_of_expand_eq_ok
    (h : (Engine.open st { settings with escape := a }).expand scope s = .ok r) : b ∉ r := by
  obtain ⟨t, ht, rfl⟩ := map_eq_ok h
  exact not_mem_decodeBraces ha hb hab (not_mem_of_directives_eq_ok hb hs ht)

theorem not_mem_of_render_eq_ok
    (h : (Engine.open st { settings with escape := a }).render scope s = .ok r) : b ∉ r := by
  obtain ⟨t, ht, hrest⟩ := bind_eq_ok h
  have htext := not_mem_of_directives_eq_ok hb hs ht
  split at hrest
  · obtain ⟨u, hu, hdecoded⟩ := bind_eq_ok hrest
    cases hdecoded
    exact not_mem_decodeBraces ha hb hab
      (not_mem_of_apply_eq_ok ha hb hab htext (mapError_eq_ok hu))
  · cases hrest
    exact not_mem_decodeBraces ha hb hab htext

end

/-- The escape character is only a name. In a state whose names hold neither of two escape
characters, and for a text that does not hold the second: with the second in the place of the first,
the text is expanded and displayed under the second as it is under the first, respelled, or fails
with a fault of the same class; and its summary counts the same and lists the same slots. -/
theorem outcomes_respell {a b : Char} (ha : a ∈ escapeSigns) (hb : b ∈ escapeSigns) {st : State}
    (hnames : ∀ name ∈ st.names, a ∉ name ∧ b ∉ name) (settings : Settings) (scope : Option Scope)
    {s : List Char} (hs : b ∉ s) :
    OutcomeRel SameTitle (fun r r' => r' = respell a b r)
      ((Engine.open st { settings with escape := a }).expand scope s)
      ((Engine.open st { settings with escape := b }).expand scope (respell a b s)) ∧
    OutcomeRel SameTitle (fun r r' => r' = respell a b r)
      ((Engine.open st { settings with escape := a }).render scope s)
      ((Engine.open st { settings with escape := b }).render scope (respell a b s)) ∧
    OutcomeRel Eq (Summary.Matches (Equiv.swap a b)) (Summary.ofText a s)
      (Summary.ofText b (respell a b s)) := by
  -- all outcomes with the two characters swapped, in the text and in what comes of it
  have hst := keeps_swap hnames
  have hexpand := (Respelling.swap ha hb).expand_map hst settings scope s
  have hrender := (Respelling.swap ha hb).render_map hst settings scope s
  have hsummary := (Respelling.swap ha hb).ofText_map (Equiv.swap a b).injective s
  dsimp only [Respelling.swap] at hexpand hrender hsummary
  rw [map_swap_eq_respell fun _ => hs] at hexpand hrender hsummary
  rw [hexpand, hrender]
  -- what comes of the text is free of the new character, too
  exact ⟨outcomeRel_of_renamedOutcome fun r hr hab => not_mem_of_expand_eq_ok ha hb hab hs hr,
    outcomeRel_of_renamedOutcome fun r hr hab => not_mem_of_render_eq_ok ha hb hab hs hr, hsummary⟩

theorem outcomes_respell_hash :
    (Engine.open { containers := [("Inn".toList, 7)] } { escape := '#' }).render none
        "#OFF[ssA@Inn:]\x7b#AN #low\x7bEGG\x7d\x7d in #x".toList = .ok "An egg in #x".toList ∧
    ∃ m, Summary.ofText '#' "#OFF[ssA@Inn:]\x7b#AN #low\x7bEGG\x7d\x7d in #x".toList = .ok m ∧
      m.directiveCount = 1 ∧ m.grammarCodes = ["AN".toList, "LOW".toList] := by
  have hnames : ∀ name ∈ State.names { containers := [("Inn".toList, 7)] },
      '\\' ∉ name ∧ '#' ∉ name := by decide
  obtain ⟨-, hrender, hsummary⟩ := outcomes_respell (by decide) (by decide) hnames {} none
    (s := "\\OFF[ssA@Inn:]\x7b\\AN \\low\x7bEGG\x7d\x7d in \\x".toList) (by decide)
  have hdisplayed : (Engine.open { containers := [("Inn".toList, 7)] } {}).render none
      "\\OFF[ssA@Inn:]\x7b\\AN \\low\x7bEGG\x7d\x7d in \\x".toList =
        .ok "An egg in \\x".toList := by rfl
  have hlisted : ∃ m, Summary.ofText '\\'
      "\\OFF[ssA@Inn:]\x7b\\AN \\low\x7bEGG\x7d\x7d in \\x".toList = .ok m ∧
        m.directiveCount = 1 ∧ m.grammarCodes = ["AN".toList, "LOW".toList] := ⟨_, rfl, rfl, rfl⟩
  obtain ⟨m, hm, hcount, hcodes⟩ := hlisted
  rw [hdisplayed] at hrender
  rw [hm] at hsummary
  obtain ⟨r, hr, rfl⟩ := hrender.exists_of_ok
  obtain ⟨m', hm', hagree⟩ := hsummary.exists_of_ok
  exact ⟨hr, m', hm', hagree.directiveCount.trans hcount, hagree.grammarCodes.trans hcodes⟩

end Engine
end DialogueMarkup
