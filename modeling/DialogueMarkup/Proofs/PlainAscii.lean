import DialogueMarkup.Proofs.Escape
import DialogueMarkup.Proofs.Numerals

/-! ASCII text. Digits are the ten, a letter has no more than its two cases, and words are spelled
letter by letter in either of them. -/
namespace DialogueMarkup
open Text Markup

/-- A number in decimal digits. -/
def IsDigitRow (s : List Char) : Prop := s ≠ [] ∧ ∀ c ∈ s, c.isDigit = true

/-- ASCII text in which no run of digits is longer than a numeral may be. -/
structure PlainAscii (s : List Char) : Prop where
  ascii : ∀ c ∈ s, c.toNat < 128
  short : ∀ run, run <:+: s → (∀ c ∈ run, c.isDigit = true) → run.length ≤ Numeral.maxDigits

/-- A text of a moderate length has no run of digits that is too long. -/
theorem PlainAscii.of_length_le {s : List Char} (hascii : ∀ c ∈ s, c.toNat < 128)
    (hlength : s.length ≤ Numeral.maxDigits) : PlainAscii s where
  ascii := hascii
  short _ hrun _ := Nat.le_trans hrun.length_le hlength

theorem PlainAscii.of_isInfix {s t : List Char} (h : PlainAscii t) (hs : s <:+: t) :
    PlainAscii s where
  ascii c hc := h.ascii c (hs.subset hc)
  short run hrun := h.short run (hrun.trans hs)

namespace PlainAscii
variable {s t : List Char}

theorem left (h : PlainAscii (s ++ t)) : PlainAscii s :=
  h.of_isInfix (List.prefix_append s t).isInfix

theorem right (h : PlainAscii (s ++ t)) : PlainAscii t :=
  h.of_isInfix (List.suffix_append s t).isInfix

theorem tail {c : Char} (h : PlainAscii (c :: t)) : PlainAscii t :=
  h.of_isInfix (List.suffix_cons c t).isInfix

end PlainAscii

theorem toNat_of_isAlpha {c : Char} (h : c.isAlpha = true) :
    65 ≤ c.toNat ∧ c.toNat ≤ 90 ∨ 97 ≤ c.toNat ∧ c.toNat ≤ 122 := by
  rcases Bool.or_eq_true_iff.mp h with hupper | hlower
  · obtain ⟨hlow, hhigh⟩ := of_decide_eq_true hupper
    exact Or.inl ⟨UInt32.le_iff_toNat_le.mp hlow, UInt32.le_iff_toNat_le.mp hhigh⟩
  · obtain ⟨hlow, hhigh⟩ := Bool.and_eq_true_iff.mp hlower
    exact Or.inr ⟨UInt32.le_iff_toNat_le.mp (of_decide_eq_true hlow),
      UInt32.le_iff_toNat_le.mp (of_decide_eq_true hhigh)⟩

section
variable {c : Char} (hc : c.toNat < 128)
include hc

/-- What holds of 128 code points holds of ASCII. -/
theorem of_ascii {p : Char → Prop} (hp : ∀ n ∈ List.range 128, p (Char.ofNat n)) : p c := by
  simpa only [Char.ofNat_toNat] using hp c.toNat (List.mem_range.mpr hc)

theorem isDecimal_of_ascii : isDecimal c = c.isDigit := by
  rw [isDecimal, decimalValue?, if_pos hc]
  cases c.isDigit <;> rfl

/-- Digits that stand alone are beyond ASCII. -/
theorem hasDigitValue_of_ascii : hasDigitValue c = c.isDigit := by
  have hbeyond : ∀ r ∈ loneDigitRanges, 128 ≤ r.1 := by decide
  have hlone : inRanges loneDigitRanges c = false := by
    rw [inRanges, List.any_eq_false]
    intro r hr
    have hle := hbeyond r hr
    simp only [Bool.and_eq_true, decide_eq_true_eq]
    omega
  rw [hasDigitValue, hlone, Bool.or_false, isDecimal_of_ascii hc]

theorem lowerChar_of_ascii : lowerChar c = [c.toLower] := by
  have hne : c ≠ 'İ' := by
    rintro rfl
    exact absurd hc (by decide)
  rw [lowerChar, if_neg hne, lowerSimple, if_pos hc]

/-- The letters of sigils are the same letter as their capitals alone. -/
theorem sameLetter_of_ascii {w : Char} (hw : w ∈ ['s', 'v']) :
    sameLetter w c = (c.toLower == w) := by
  have hs : sameLetter 's' c = (c.toLower == 's') :=
    of_ascii (p := fun c => sameLetter 's' c = (c.toLower == 's')) hc
      (forall_mem_of_all (by decide))
  have hv : sameLetter 'v' c = (c.toLower == 'v') :=
    of_ascii (p := fun c => sameLetter 'v' c = (c.toLower == 'v')) hc
      (forall_mem_of_all (by decide))
  simp only [List.mem_cons, List.not_mem_nil, or_false] at hw
  rcases hw with rfl | rfl
  · exact hs
  · exact hv

/-- No digit is a letter of a sigil. -/
theorem toLower_ne_of_isDigit (h : c.isDigit = true) : c.toLower ≠ 's' ∧ c.toLower ≠ 'v' := by
  have hsmall : ∀ n ∈ List.range 128, (Char.ofNat n).isDigit = true →
      (Char.ofNat n).toLower ≠ 's' ∧ (Char.ofNat n).toLower ≠ 'v' := forall_mem_of_all (by decide)
  exact of_ascii (p := fun c => c.isDigit = true → c.toLower ≠ 's' ∧ c.toLower ≠ 'v') hc hsmall h

end

section
variable {s : List Char} (hs : ∀ c ∈ s, c.toNat < 128)
include hs

theorem isDigits_of_ascii : isDigits s = true ↔ IsDigitRow s := by
  have hclass : s.all hasDigitValue = true ↔ ∀ c ∈ s, c.isDigit = true := by
    rw [List.all_eq_true]
    constructor
    · exact fun h c hc => hasDigitValue_of_ascii (hs c hc) ▸ h c hc
    · exact fun h c hc => (hasDigitValue_of_ascii (hs c hc)).trans (h c hc)
  rw [isDigits, Bool.and_eq_true, hclass]
  simp [IsDigitRow]

theorem lowerAfter_of_ascii (before : List Char) : lowerAfter before s = s.map Char.toLower := by
  induction s generalizing before with
  | nil => rfl
  | cons c s ih =>
    obtain ⟨hc, hrest⟩ := List.forall_mem_cons.mp hs
    have hne : c ≠ 'Σ' := by
      rintro rfl
      exact absurd hc (by decide)
    rw [lowerAfter, if_neg hne, lowerChar_of_ascii hc, ih hrest, List.map_cons]
    rfl

theorem lower_of_ascii : lower s = s.map Char.toLower := lowerAfter_of_ascii hs []

/-- A word of small letters is read where it stands in any case. -/
theorem readWord_of_ascii {word spelling rest : List Char} (hword : ∀ w ∈ word, w ∈ ['s', 'v']) :
    readWord word s = some (spelling, rest) ↔
      s = spelling ++ rest ∧ spelling.map Char.toLower = word := by
  induction word generalizing s spelling with
  | nil =>
    rw [List.map_eq_nil_iff, readWord]
    constructor
    · intro h
      cases h
      exact ⟨rfl, rfl⟩
    · rintro ⟨rfl, rfl⟩
      rfl
  | cons w word ih =>
    obtain ⟨hw, hrestword⟩ := List.forall_mem_cons.mp hword
    cases s with
    | nil =>
      rw [readWord]
      constructor
      · intro h
        cases h
      · rintro ⟨hnil, hspelling⟩
        rw [(List.append_eq_nil_iff.mp hnil.symm).1] at hspelling
        cases hspelling
    | cons c s =>
      obtain ⟨hc, hrest⟩ := List.forall_mem_cons.mp hs
      rw [readWord, sameLetter_of_ascii hc hw]
      constructor
      · intro h
        split at h
        · rename_i hsame
          obtain ⟨⟨t, r⟩, ht, he⟩ := Option.map_eq_some_iff.mp h
          cases he
          obtain ⟨rfl, rfl⟩ := (ih hrest hrestword).mp ht
          exact ⟨rfl, by rw [List.map_cons, beq_iff_eq.mp hsame]⟩
        · cases h
      · rintro ⟨happend, hspelling⟩
        obtain ⟨d, t, rfl, rfl, rfl⟩ := List.map_eq_cons_iff.mp hspelling
        obtain ⟨rfl, rfl⟩ := List.cons.inj happend
        rw [if_pos (beq_self_eq_true _), (ih hrest hrestword).mpr ⟨rfl, rfl⟩]
        rfl

end

namespace PlainAscii
variable {s : List Char} (h : PlainAscii s)
include h

theorem legible : Numeral.Legible s where
  decimal c hc hdigit := by
    rw [hasDigitValue_of_ascii (h.ascii c hc)] at hdigit
    exact Numeral.isDecimal_of_isDigit hdigit
  short run hrun hdecimal := h.short run hrun fun c hc =>
    isDecimal_of_ascii (h.ascii c (hrun.subset hc)) ▸ hdecimal c hc

/-- Digits make the number that they are in decimal notation. -/
theorem ofDigits_eq (negative : Bool) (hrow : IsDigitRow s) :
    Numeral.ofDigits negative (s.filterMap decimalValue?) =
      .ok (if negative then -(Nat.ofDigitChars 10 s 0 : Int) else Nat.ofDigitChars 10 s 0) := by
  rw [Numeral.ofDigits_row negative (h.short s (List.infix_refl s) hrow.2),
    Numeral.value_of_isDigit hrow.2]

theorem read_eq (hrow : IsDigitRow s) : Numeral.read s = .ok (Nat.ofDigitChars 10 s 0) := by
  obtain ⟨hne, hdigits⟩ := hrow
  have hdecimal : ∀ c ∈ s, isDecimal c = true :=
    fun c hc => Numeral.isDecimal_of_isDigit (hdigits c hc)
  rw [Numeral.read_of_isDecimal hne hdecimal (h.short s (List.infix_refl s) hdigits),
    Numeral.value_of_isDigit hdigits]

end PlainAscii

end DialogueMarkup
