import Mathlib.Data.Nat.Log
import DialogueMarkup.Proofs.Decimals
import DialogueMarkup.Proofs.Vowels

/-! Numbers and the sound they begin with. A numeral is read from its leading group of thousands on,
and only that group, a number below a thousand, decides. Commas between the digits and what stands
behind them make no difference. -/
namespace DialogueMarkup.English
open Text

/-! Digits of a number. -/

/-- The digits of a number are those of its quotient by a power of ten, and as many more. -/
theorem exists_writeNat_eq_append {n j : Nat} (h : 1 ≤ n / 10 ^ j) :
    ∃ tail, Numeral.writeNat n = Numeral.writeNat (n / 10 ^ j) ++ tail ∧ tail.length = j := by
  induction j generalizing n with
  | zero => exact ⟨[], by simp, rfl⟩
  | succ j ih =>
    have hquotient : n / 10 ^ (j + 1) = n / 10 / 10 ^ j := by
      rw [Nat.div_div_eq_div_mul, Nat.pow_succ, Nat.mul_comm]
    rw [hquotient] at h ⊢
    have hten : 10 ≤ n := by
      by_contra hlt
      rw [Nat.div_eq_of_lt (Nat.lt_of_not_le hlt), Nat.zero_div] at h
      omega
    obtain ⟨tail, htail, hlength⟩ := ih h
    refine ⟨tail ++ [(n % 10).digitChar], ?_, by simp [hlength]⟩
    calc Numeral.writeNat n
        = Numeral.writeNat (n / 10) ++ [(n % 10).digitChar] :=
          Nat.toDigits_of_base_le (by decide) hten
      _ = Numeral.writeNat (n / 10 / 10 ^ j) ++ (tail ++ [(n % 10).digitChar]) := by
          rw [htail, List.append_assoc]

theorem digitChar_eq_iff {d : Nat} (h : d < 10) :
    (d.digitChar = '1' ↔ d = 1) ∧ (d.digitChar = '8' ↔ d = 8) := by
  have hdigits : ∀ d < 10, (d.digitChar = '1' ↔ d = 1) ∧ (d.digitChar = '8' ↔ d = 8) := by decide
  exact hdigits d h

/-! The judgement on a numeral. -/

theorem beginsWith_one {beginning : String} {x : Char} (h : beginning.toList = [x]) (a : Char)
    (s : List Char) : beginsWith beginning (a :: s) = true ↔ a = x := by
  rw [beginsWith, h, List.isPrefixOf_cons_cons, List.isPrefixOf_nil_left, Bool.and_true, beq_iff_eq]
  exact eq_comm

theorem beginsWith_two {beginning : String} {x y : Char} (h : beginning.toList = [x, y]) (a : Char)
    (s : List Char) : beginsWith beginning (a :: s) = true ↔ a = x ∧ s.head? = some y := by
  rw [beginsWith, h, List.isPrefixOf_cons_cons, Bool.and_eq_true, beq_iff_eq]
  cases s with
  | nil => simp
  | cons b s =>
    rw [List.isPrefixOf_cons_cons, List.isPrefixOf_nil_left, Bool.and_true, beq_iff_eq,
      List.head?_cons, Option.some.injEq, eq_comm, @eq_comm _ y b]

theorem numeralBeginsWithVowel_cons (a : Char) (s : List Char) :
    numeralBeginsWithVowel (a :: s) = true ↔ a = '8' ∨
      a = '1' ∧ (s.head? = some '1' ∨ s.head? = some '8') ∧ s.length % 3 = 1 := by
  have height : beginsWith "8" (a :: s) = true ↔ a = '8' := beginsWith_one rfl a s
  have heleven : beginsWith "11" (a :: s) = true ↔ a = '1' ∧ s.head? = some '1' :=
    beginsWith_two rfl a s
  have heighteen : beginsWith "18" (a :: s) = true ↔ a = '1' ∧ s.head? = some '8' :=
    beginsWith_two rfl a s
  have hlength : (a :: s).length % 3 = 2 ↔ s.length % 3 = 1 := by
    rw [List.length_cons]
    omega
  rw [numeralBeginsWithVowel, Bool.or_eq_true, Bool.and_eq_true, Bool.or_eq_true, beq_iff_eq,
    height, heleven, heighteen, hlength, ← and_or_left, and_assoc]

/-- Whole groups of three behind a numeral make no difference. -/
theorem numeralBeginsWithVowel_append {digits groups : List Char} (hne : digits ≠ [])
    (hgroups : groups.length % 3 = 0) :
    numeralBeginsWithVowel (digits ++ groups) = numeralBeginsWithVowel digits := by
  obtain ⟨a, s, rfl⟩ := List.exists_cons_of_ne_nil hne
  have hlength : (s ++ groups).length % 3 = s.length % 3 := by
    rw [List.length_append]
    omega
  rw [Bool.eq_iff_iff, List.cons_append, numeralBeginsWithVowel_cons, numeralBeginsWithVowel_cons,
    hlength]
  cases s with
  | nil => simp
  | cons b s => rfl

/-- The judgement on a numeral of one to three digits. -/
theorem numeralBeginsWithVowel_group {g : Nat} (hpos : 1 ≤ g) (hle : g ≤ 999) :
    numeralBeginsWithVowel (Numeral.writeNat g) = true ↔
      g = 8 ∨ g = 11 ∨ g = 18 ∨ (80 ≤ g ∧ g ≤ 89) ∨ (800 ≤ g ∧ g ≤ 899) := by
  have hone {m : Nat} (hm : m < 10) : Numeral.writeNat m = [m.digitChar] :=
    Nat.toDigits_of_lt_base hm
  have hmore {m : Nat} (hm : 10 ≤ m) :
      Numeral.writeNat m = Numeral.writeNat (m / 10) ++ [(m % 10).digitChar] :=
    Nat.toDigits_of_base_le (by decide) hm
  obtain ⟨hones, heights⟩ := digitChar_eq_iff (Nat.mod_lt g (by decide : 0 < 10))
  -- by the number of digits
  rcases Nat.lt_or_ge g 10 with hlt | hten
  · obtain ⟨-, height⟩ := digitChar_eq_iff hlt
    rw [hone hlt, numeralBeginsWithVowel_cons, height]
    simp only [List.length_nil, Nat.zero_mod, Nat.zero_ne_one, and_false, or_false]
    omega
  rcases Nat.lt_or_ge g 100 with hlt | hhundred
  · obtain ⟨hfirst, hfirst8⟩ := digitChar_eq_iff (by omega : g / 10 < 10)
    rw [hmore hten, hone (by omega), List.singleton_append, numeralBeginsWithVowel_cons, hfirst8,
      hfirst]
    simp only [List.head?_cons, Option.some.injEq, List.length_singleton, Nat.one_mod, and_true,
      hones, heights]
    omega
  · obtain ⟨-, hfirst8⟩ := digitChar_eq_iff (by omega : g / 10 / 10 < 10)
    rw [hmore hten, hmore (by omega), hone (by omega), List.singleton_append, List.cons_append,
      numeralBeginsWithVowel_cons, hfirst8]
    simp only [List.length_append, List.length_cons, List.length_nil, Nat.reduceAdd, Nat.reduceMod,
      OfNat.ofNat_ne_one, and_false, or_false]
    omega

/-! Numerals in a text. -/

theorem isWordCharacter_of_isDigit {c : Char} (h : c.isDigit = true) :
    isWordCharacter c = true := by
  have hrange := Numeral.toNat_of_isDigit h
  have hascii : c.toNat < 128 := by omega
  rw [isWordCharacter, if_pos hascii, h, Bool.or_true]

/-- A numeral with commas in it is judged without them, whatever stands behind it. -/
theorem beginsWithVowelSound_numeral {s rest : List Char} (hne : s ≠ [])
    (hfirst : s.head? ≠ some ',') (hdigits : ∀ c ∈ s.filter (· != ','), c.isDigit = true)
    (hrest : ∀ c ∈ rest.head?, isDecimal c = false ∧ c ≠ ',') :
    beginsWithVowelSound (s ++ rest) = numeralBeginsWithVowel (s.filter (· != ',')) := by
  have hcomma : isBlank ',' = false := by decide
  have hdigit : ∀ c ∈ s, c ≠ ',' → c.isDigit = true := by
    intro c hc hne
    exact hdigits c (List.mem_filter.mpr ⟨hc, bne_iff_ne.mpr hne⟩)
  have hclass : ∀ c ∈ s, (isDecimal c || c == ',') = true ∧ isBlank c = false := by
    intro c hc
    by_cases hcc : c = ','
    · exact ⟨by simp [hcc], hcc ▸ hcomma⟩
    · have hdecimal := Numeral.isDecimal_of_isDigit (hdigit c hc hcc)
      exact ⟨by rw [hdecimal, Bool.true_or], Numeral.isBlank_of_isDecimal hdecimal⟩
  obtain ⟨c, v, rfl⟩ := List.exists_cons_of_ne_nil hne
  have hc : c.isDigit = true := hdigit c List.mem_cons_self fun heq => hfirst (by rw [heq]; rfl)
  -- what is trimmed on the right is cut off behind the digits
  have hbehind : ∀ x ∈ (trimRight rest).head?, (isDecimal x || x == ',') = false := by
    intro x hx
    obtain ⟨t, ht⟩ := trimRight_prefix rest
    obtain ⟨hdecimal, hnot⟩ := hrest x (by rw [← ht, List.head?_append, Option.mem_def.mp hx]; rfl)
    simp [hdecimal, hnot]
  have hrun := (span_append (fun d hd => (hclass d (List.mem_cons_of_mem c hd)).1) hbehind).1
  rw [beginsWithVowelSound, spokenPart_append (isWordCharacter_of_isDigit hc)
    (fun d hd => (hclass d hd).2), List.cons_append,
    spokenBeginsWithVowel_of_isDecimal (Numeral.isDecimal_of_isDigit hc), hrun]

/-! Thousands. -/

/-- Every number has a leading group. -/
theorem exists_leading_group {n : Nat} (hn : 1 ≤ n) :
    ∃ k, 1 ≤ n / 1000 ^ k ∧ n / 1000 ^ k ≤ 999 := by
  refine ⟨Nat.log 1000 n, ?_, ?_⟩
  · exact Nat.div_pos (Nat.pow_log_le_self 1000 (by omega)) (by positivity)
  · have hlt := Nat.lt_pow_succ_log_self (b := 1000) (by decide) n
    rw [Nat.pow_succ, Nat.mul_comm] at hlt
    exact Nat.le_of_lt_succ (Nat.div_lt_of_lt_mul (by rwa [Nat.mul_comm]))

/-- The numeral of a number is judged as that of its leading group. -/
theorem numeralBeginsWithVowel_writeNat {n k : Nat} (hpos : 1 ≤ n / 1000 ^ k) :
    numeralBeginsWithVowel (Numeral.writeNat n) =
      numeralBeginsWithVowel (Numeral.writeNat (n / 1000 ^ k)) := by
  have hpow : 1000 ^ k = 10 ^ (3 * k) := by rw [Nat.pow_mul]
  rw [hpow] at hpos ⊢
  obtain ⟨groups, hgroups, hlength⟩ := exists_writeNat_eq_append hpos
  rw [hgroups]
  exact numeralBeginsWithVowel_append Nat.toDigits_ne_nil (by omega)

/-- A number is judged by the group of one to three digits that leads when its digits are grouped by
thousands, whether there are commas between the digits or not and whatever follows them. -/
theorem beginsWithVowelSound_number {n : Nat} (hn : 1 ≤ n) {s rest : List Char}
    (hs : s.filter (· != ',') = Numeral.writeNat n) (hfirst : s.head? ≠ some ',')
    (hrest : ∀ c ∈ rest.head?, isDecimal c = false ∧ c ≠ ',') :
    (∃ k, 1 ≤ n / 1000 ^ k ∧ n / 1000 ^ k ≤ 999) ∧
    ∀ k g, g = n / 1000 ^ k → 1 ≤ g → g ≤ 999 →
      (beginsWithVowelSound (s ++ rest) = true ↔
        g = 8 ∨ g = 11 ∨ g = 18 ∨ (80 ≤ g ∧ g ≤ 89) ∨ (800 ≤ g ∧ g ≤ 899)) := by
  refine ⟨exists_leading_group hn, ?_⟩
  rintro k g rfl hpos hle
  have hne : s ≠ [] := by
    rintro rfl
    exact Nat.toDigits_ne_nil hs.symm
  have hdigits : ∀ c ∈ s.filter (· != ','), c.isDigit = true := by
    intro c hc
    rw [hs] at hc
    exact Numeral.isDigit_of_mem_writeNat hc
  rw [beginsWithVowelSound_numeral hne hfirst hdigits hrest, hs,
    numeralBeginsWithVowel_writeNat hpos]
  exact numeralBeginsWithVowel_group hpos hle

theorem beginsWithVowelSound_number_eighteen :
    beginsWithVowelSound "18,000,000-strong".toList = true ∧
      beginsWithVowelSound "1,80,000 men".toList = false := by
  have hstrong : ∀ c ∈ "-strong".toList.head?, isDecimal c = false ∧ c ≠ ',' := by
    intro c hc
    obtain rfl : '-' = c := Option.some.inj hc
    decide
  have hmen : ∀ c ∈ " men".toList.head?, isDecimal c = false ∧ c ≠ ',' := by
    intro c hc
    obtain rfl : ' ' = c := Option.some.inj hc
    decide
  constructor
  · obtain ⟨-, hgroup⟩ := beginsWithVowelSound_number (n := 18000000) (s := "18,000,000".toList)
      (by decide) (by decide) (by decide) hstrong
    exact (hgroup 2 18 (by decide) (by decide) (by decide)).mpr (by decide)
  · obtain ⟨-, hgroup⟩ := beginsWithVowelSound_number (n := 180000) (s := "1,80,000".toList)
      (by decide) (by decide) (by decide) hmen
    rw [Bool.eq_false_iff]
    exact mt (hgroup 1 180 (by decide) (by decide) (by decide)).mp (by decide)

end DialogueMarkup.English
