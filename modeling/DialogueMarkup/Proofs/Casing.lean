import DialogueMarkup.Grammar
import DialogueMarkup.Proofs.Guards

/-! What folding the case of a text leaves of it: escapes and braces stay where they are, no new
ones come up, and the letters that names of codes are made of stay the same letters. -/
namespace DialogueMarkup
open Text Markup

namespace Text

/-- A character that no letter has for a capital or a small form. -/
structure Caseless (x : Char) : Prop extends Uncased x where
  ascii : ∀ n ∈ List.range 128, (Char.ofNat n).toUpper = x → Char.ofNat n = x
  not_long : ∀ p ∈ longCapitals, x.toNat ∉ p.2
  not_run : ∀ r ∈ capitalRuns, x.toNat < r.target ∨ r.target + (r.last - r.first) < x.toNat
  ne_dot : x ≠ '\u0307'

/-- An escape or a brace. -/
def isMark (x : Char) : Bool := x == '\\' || !isNoBrace x

theorem isMark_iff {x : Char} : isMark x = true ↔ x = '\\' ∨ x = '{' ∨ x = '}' := by
  simp [isMark, isNoBrace]

theorem caseless_of_isMark {x : Char} (hx : isMark x = true) : Caseless x := by
  have huncased : Uncased x := by
    rcases isMark_iff.mp hx with rfl | rfl | rfl
    · exact uncased_backslash
    · exact uncased_of_mem_bounds (by simp [bounds])
    · exact uncased_of_mem_bounds (by simp [bounds])
  rcases isMark_iff.mp hx with rfl | rfl | rfl
  all_goals exact ⟨huncased, forall_mem_of_all (by decide), forall_mem_of_all (by decide),
    forall_mem_of_all (by decide), by decide⟩

namespace Caseless
variable {x c : Char} (hx : Caseless x)
include hx

theorem eq_of_mem_upperChar (h : x ∈ upperChar c) : c = x := by
  unfold upperChar at h
  split at h
  · have hupper : c.toUpper = x := (List.mem_singleton.mp h).symm
    have hc := hx.ascii c.toNat (List.mem_range.mpr ‹_›)
    rw [Char.ofNat_toNat] at hc
    exact hc hupper
  · split at h
    · rename_i capitals hlookup
      obtain ⟨n, hn, hchar⟩ := List.mem_map.mp h
      have hnum : n = x.toNat := eq_toNat_of_ofNat_eq hx.ne_zero hchar
      obtain ⟨xs, ys, hsplit, -⟩ := List.lookup_eq_some_iff.mp hlookup
      have hmem : (c.toNat, capitals) ∈ longCapitals := by simp [hsplit]
      exact absurd (hnum ▸ hn) (hx.not_long _ hmem)
    · have hchar := (List.mem_singleton.mp h).symm
      cases hfind : capitalRuns.findSome? (·.image? c.toNat) with
      | none =>
        rw [hfind, Option.getD_none, Char.ofNat_toNat] at hchar
        exact hchar
      | some n =>
        obtain ⟨r, hr, himage⟩ := List.exists_of_findSome?_eq_some hfind
        have hout := hx.not_run r hr
        rw [hfind] at hchar
        have hnum : n = x.toNat := eq_toNat_of_ofNat_eq hx.ne_zero hchar
        unfold CaseRun.image? at himage
        split at himage
        · have htarget : r.target + (c.toNat - r.first) = n := Option.some.inj himage
          omega
        · cases himage

theorem eq_of_mem_lowerChar (h : x ∈ lowerChar c) : c = x := by
  unfold lowerChar at h
  split at h
  · simp only [List.mem_cons, List.not_mem_nil, or_false] at h
    rcases h with rfl | hdot
    · exact absurd hx.not_small (by decide)
    · exact absurd hdot hx.ne_dot
  · exact hx.eq_of_lowerSimple_eq (List.mem_singleton.mp h).symm

end Caseless

/-- The code points of the small letters in the names of codes that may stand in a folded text. -/
def codeKeys : List Nat := [97, 98, 99, 108, 110, 111, 112, 117, 119]

/-- Such a letter has no case beyond ASCII. -/
theorem toNat_lt_of_caseKey {c : Char} (h : (caseKey c).toNat ∈ codeKeys) : c.toNat < 128 := by
  have hkeys : ∀ n ∈ codeKeys, n < 128 ∧ n ≠ '\x00'.toNat ∧ n ≠ 'i'.toNat := by decide
  have hshared : ∀ p ∈ sharedCapitals, (Char.ofNat p.2).toNat ∉ codeKeys :=
    forall_mem_of_all (by decide)
  have hruns : ∀ r ∈ smallRuns, ∀ n ∈ codeKeys,
      n < r.target ∨ r.target + (r.last - r.first) < n := forall_mem_of_all (by decide)
  dsimp only [caseKey] at h
  split at h
  · rename_i first hlookup
    obtain ⟨xs, ys, hsplit, -⟩ := List.lookup_eq_some_iff.mp hlookup
    have hmem : ((lowerSimple c).toNat, first) ∈ sharedCapitals := by simp [hsplit]
    exact absurd h (hshared _ hmem)
  · obtain ⟨hascii, hzero, hdot⟩ := hkeys _ h
    rcases cases_of_lowerSimple_eq rfl (fun hnull => hzero (congrArg Char.toNat hnull))
        (fun r hr => hruns r hr _ h) with hsame | ⟨hlt, -⟩ | hi
    · rwa [hsame]
    · exact hlt
    · exact absurd (congrArg Char.toNat hi) hdot

/-- What folding the case of one character may write. -/
structure Folds (c : Char) (xs : List Char) : Prop where
  ne_nil : xs ≠ []
  mark : ∀ x ∈ xs, isMark x = true → c = x
  escape : c = '\\' → xs = ['\\']
  ascii : c.toNat < 128 → ∃ d, xs = [d] ∧ d.toNat < 128 ∧ caseKey d = caseKey c

theorem folds_upperChar (c : Char) : Folds c (upperChar c) where
  ne_nil := by
    have hlong : ∀ p ∈ longCapitals, p.2 ≠ [] := forall_mem_of_all (by decide)
    unfold upperChar
    split
    · exact List.cons_ne_nil _ _
    · split
      · rename_i capitals hlookup
        obtain ⟨xs, ys, hsplit, -⟩ := List.lookup_eq_some_iff.mp hlookup
        have hmem : (c.toNat, capitals) ∈ longCapitals := by simp [hsplit]
        simpa using hlong _ hmem
      · exact List.cons_ne_nil _ _
  mark := fun _ hmem hx => (caseless_of_isMark hx).eq_of_mem_upperChar hmem
  escape := by
    rintro rfl
    rfl
  ascii := by
    intro hlt
    have hascii : ∀ n ∈ List.range 128, (Char.ofNat n).toUpper.toNat < 128 ∧
        caseKey (Char.ofNat n).toUpper = caseKey (Char.ofNat n) := forall_mem_of_all (by decide)
    have hupper := hascii c.toNat (List.mem_range.mpr hlt)
    rw [Char.ofNat_toNat] at hupper
    exact ⟨c.toUpper, if_pos hlt, hupper⟩

theorem folds_lowerChar (c : Char) : Folds c (lowerChar c) where
  ne_nil := by
    unfold lowerChar
    split <;> exact List.cons_ne_nil _ _
  mark := fun _ hmem hx => (caseless_of_isMark hx).eq_of_mem_lowerChar hmem
  escape := by
    rintro rfl
    rfl
  ascii := by
    intro hlt
    have hascii : ∀ n ∈ List.range 128, lowerChar (Char.ofNat n) = [(Char.ofNat n).toLower] ∧
        (Char.ofNat n).toLower.toNat < 128 ∧
        caseKey (Char.ofNat n).toLower = caseKey (Char.ofNat n) := forall_mem_of_all (by decide)
    have hlower := hascii c.toNat (List.mem_range.mpr hlt)
    rw [Char.ofNat_toNat] at hlower
    exact ⟨c.toLower, hlower⟩

theorem folds_sigma {d : Char} (hd : d = 'ς' ∨ d = 'σ') : Folds 'Σ' [d] where
  ne_nil := List.cons_ne_nil _ _
  mark := by
    intro x hmem hx
    obtain rfl := List.mem_singleton.mp hmem
    rcases hd with rfl | rfl <;> exact absurd hx (by decide)
  escape := fun h => absurd h (by decide)
  ascii := fun h => absurd h (by decide)

theorem Folds.letter {c : Char} {xs : List Char} (h : Folds c xs)
    (hkey : (caseKey c).toNat ∈ codeKeys) : ∃ d, xs = [d] ∧ caseKey d = caseKey c := by
  obtain ⟨d, hd, -, hsame⟩ := h.ascii (toNat_lt_of_caseKey hkey)
  exact ⟨d, hd, hsame⟩

/-- A text with the case of its characters folded, one after the other. -/
inductive Folded : List Char → List Char → Prop
  | nil : Folded [] []
  | cons {c xs s t} (h : Folds c xs) (rest : Folded s t) : Folded (c :: s) (xs ++ t)

theorem folded_upper (s : List Char) : Folded s (upper s) := by
  induction s with
  | nil => exact .nil
  | cons c s ih => exact .cons (folds_upperChar c) ih

theorem folded_lowerAfter (before s : List Char) : Folded s (lowerAfter before s) := by
  induction s generalizing before with
  | nil => exact .nil
  | cons c s ih =>
    refine .cons ?_ (ih (c :: before))
    split
    · rename_i hsigma
      subst hsigma
      apply folds_sigma
      split
      · exact Or.inl rfl
      · exact Or.inr rfl
    · exact folds_lowerChar c

theorem folded_apply (fold : Grammar.Fold) (s : List Char) : Folded s (fold.apply s) := by
  cases fold with
  | up => exact folded_upper s
  | low => exact folded_lowerAfter [] s

section
variable {s t : List Char}

/-- Folding brings no escapes and braces into a text. -/
theorem Folded.mem_of_isMark {x : Char} (h : Folded s t) (hx : isMark x = true) (hmem : x ∈ t) :
    x ∈ s := by
  induction h with
  | nil => exact hmem
  | cons hc _ ih =>
    rcases List.mem_append.mp hmem with hin | hin
    · obtain rfl := hc.mark x hin hx
      exact List.mem_cons_self
    · exact List.mem_cons_of_mem _ (ih hin)

theorem Folded.isNoBrace (h : Folded s t) (hs : ∀ c ∈ s, isNoBrace c = true) :
    ∀ c ∈ t, isNoBrace c = true := by
  intro c hc
  cases hbrace : Markup.isNoBrace c with
  | true => rfl
  | false =>
    have hmark : isMark c = true := by simp [isMark, hbrace]
    exact hbrace.symm.trans (hs c (h.mem_of_isMark hmark hc))

/-- Folding leaves at least one character for each. -/
theorem Folded.length_le (h : Folded s t) : s.length ≤ t.length := by
  induction h with
  | nil => exact Nat.le_refl _
  | cons hc _ ih =>
    have hpos := List.length_pos_iff.mpr hc.ne_nil
    simp only [List.length_cons, List.length_append]
    omega

theorem Folded.append {s' : List Char} (h : Folded (s ++ s') t) :
    ∃ u u', t = u ++ u' ∧ Folded s u ∧ Folded s' u' := by
  induction s generalizing t with
  | nil => exact ⟨[], t, rfl, .nil, h⟩
  | cons c s ih =>
    obtain @⟨⟩ | @⟨_, xs, _, t, hc, hrest⟩ := h
    obtain ⟨u, u', rfl, hu, hu'⟩ := ih hrest
    exact ⟨xs ++ u, u', by simp, .cons hc hu, hu'⟩

/-- A code name stays one in any case. -/
theorem Folded.spelling {name : List Char} (hname : ∀ w ∈ name, (caseKey w).toNat ∈ codeKeys)
    (spelling : Spelling name) (h : Folded spelling.letters t) :
    ∃ spelling' : Spelling name, t = spelling'.letters := by
  suffices hkeys : t.map caseKey = spelling.letters.map caseKey from
    ⟨⟨t, hkeys.trans spelling.spells⟩, rfl⟩
  have hletters : ∀ c ∈ spelling.letters, (caseKey c).toNat ∈ codeKeys := by
    intro c hc
    have hkey : caseKey c ∈ name.map caseKey := spelling.spells ▸ List.mem_map_of_mem hc
    obtain ⟨w, hw, hwc⟩ := List.mem_map.mp hkey
    exact hwc ▸ hname w hw
  generalize spelling.letters = letters at h hletters
  induction h with
  | nil => rfl
  | cons hc _ ih =>
    rw [List.forall_mem_cons] at hletters
    obtain ⟨d, rfl, hsame⟩ := hc.letter hletters.1
    simp [hsame, ih hletters.2]

end

end Text
end DialogueMarkup
