import DialogueMarkup.Proofs.Trimming
import DialogueMarkup.Text.Numeral

/-! Numerals that can be read: a text whose digits are all decimal ones, in runs that are not too
long, holds no numeral that is refused. -/
namespace DialogueMarkup.Numeral
open Text

/-- Every digit counts in a numeral, and no run of digits is longer than a numeral may be. -/
structure Legible (s : List Char) : Prop where
  decimal : ∀ c ∈ s, hasDigitValue c = true → isDecimal c = true
  short : ∀ run, run <:+: s → (∀ c ∈ run, isDecimal c = true) → run.length ≤ maxDigits

theorem Legible.of_isInfix {s t : List Char} (h : Legible t) (hs : s <:+: t) : Legible s where
  decimal c hc := h.decimal c (hs.subset hc)
  short run hrun := h.short run (hrun.trans hs)

theorem isBlank_of_isPadding {c : Char} (h : isPadding c = true) : isBlank c = true := by
  by_cases hspace : c = ' '
  · subst hspace
    rfl
  simp only [isPadding, beq_iff_eq, hspace, Bool.or_eq_true, Bool.and_eq_true, decide_eq_true_eq,
    false_or] at h
  rcases h with hascii | ⟨-, hblank⟩
  · have hlt : c.toNat < 128 := by omega
    simp [isBlank, hlt, hascii]
  · exact hblank

theorem toNat_of_isDigit {c : Char} (h : c.isDigit = true) : 48 ≤ c.toNat ∧ c.toNat ≤ 57 := by
  simpa [Char.isDigit, UInt32.le_iff_toNat_le] using h

/-- A decimal digit stands in a run of ten that a zero opens. -/
theorem exists_zero_of_isDecimal {c : Char} (h : isDecimal c = true) :
    ∃ z ∈ 48 :: decimalZeros, z ≤ c.toNat ∧ c.toNat ≤ z + 9 := by
  unfold isDecimal decimalValue? at h
  split at h
  · split at h
    · rename_i hdigit
      exact ⟨48, List.mem_cons_self, toNat_of_isDigit hdigit⟩
    · cases h
  · rw [Option.isSome_map, List.find?_isSome] at h
    obtain ⟨z, hz, hin⟩ := h
    exact ⟨z, List.mem_cons_of_mem _ hz, by simpa using hin⟩

/-- No digit is a blank. -/
theorem isBlank_of_isDecimal {c : Char} (h : isDecimal c = true) : isBlank c = false := by
  have hlarge : ∀ z ∈ 48 :: decimalZeros, 48 ≤ z := by decide
  have hapart : ∀ z ∈ 48 :: decimalZeros, ∀ r ∈ blankRanges, r.2 < z ∨ z + 9 < r.1 := by decide
  obtain ⟨z, hz, hlow, hhigh⟩ := exists_zero_of_isDecimal h
  have hzero := hlarge z hz
  rw [Bool.eq_false_iff]
  intro hblank
  unfold isBlank at hblank
  split at hblank
  · simp only [Bool.or_eq_true, Bool.and_eq_true, decide_eq_true_eq] at hblank
    omega
  · obtain ⟨r, hr, hinside⟩ := List.any_eq_true.mp hblank
    have hout := hapart z hz r hr
    simp only [Bool.and_eq_true, decide_eq_true_eq] at hinside
    omega

/-- No digit is padding. -/
theorem isPadding_of_isDecimal {c : Char} (h : isDecimal c = true) : isPadding c = false :=
  Bool.eq_false_iff.mpr fun hpadding =>
    Bool.eq_false_iff.mp (isBlank_of_isDecimal h) (isBlank_of_isPadding hpadding)

/-- Decimal digits are read to their end. -/
theorem readDigits_of_isDecimal {s : List Char} (hne : s ≠ [])
    (h : ∀ c ∈ s, isDecimal c = true) : readDigits s = some (s.filterMap decimalValue?, []) := by
  induction s with
  | nil => exact absurd rfl hne
  | cons c s ih =>
    obtain ⟨hc, hs⟩ := List.forall_mem_cons.mp h
    obtain ⟨d, hd⟩ := Option.isSome_iff_exists.mp hc
    cases s with
    | nil => simp [readDigits, hd]
    | cons c' s =>
      have hrest := ih (by simp) hs
      have hunderscore : c' ≠ '_' := by
        rintro rfl
        exact absurd (hs '_' List.mem_cons_self) (by decide)
      rw [List.filterMap_cons_some hd, readDigits, hd]
      dsimp only
      split
      · rename_i heq
        exact absurd (List.cons.inj heq).1 hunderscore
      · rw [hrest]

/-- A row of digits is the number that it means, if it is not too long. -/
theorem ofDigits_row (negative : Bool) {row : List Char} (h : row.length ≤ maxDigits) :
    ofDigits negative (row.filterMap decimalValue?) =
      .ok (if negative then -(value (row.filterMap decimalValue?) : Int)
        else value (row.filterMap decimalValue?)) := by
  have hlength := List.length_filterMap_le decimalValue? row
  rw [ofDigits, if_neg (by omega)]

/-- A row of decimal digits has no padding and no sign in front of it. -/
theorem readSign_of_isDecimal {s : List Char} (hne : s ≠ []) (h : ∀ c ∈ s, isDecimal c = true) :
    readSign (s.dropWhile isPadding) = (false, s) := by
  cases s with
  | nil => exact absurd rfl hne
  | cons c s =>
    have hc : isDecimal c = true := h c List.mem_cons_self
    have hpadding : ¬ isPadding c = true := by simp [isPadding_of_isDecimal hc]
    rw [List.dropWhile_cons_of_neg hpadding]
    unfold readSign
    split
    · rename_i heq
      rw [(List.cons.inj heq).1] at hc
      exact absurd hc (by decide)
    · rename_i heq
      rw [(List.cons.inj heq).1] at hc
      exact absurd hc (by decide)
    · rfl

/-- A row of decimal digits is the numeral it spells, if it is not too long. -/
theorem read_of_isDecimal {s : List Char} (hne : s ≠ []) (h : ∀ c ∈ s, isDecimal c = true)
    (hshort : s.length ≤ maxDigits) : read s = .ok (value (s.filterMap decimalValue?)) := by
  simp [read, readSign_of_isDecimal hne h, readDigits_of_isDecimal hne h,
    ofDigits_row false hshort]

/-! Digits of ASCII. -/

theorem decimalValue_of_isDigit {c : Char} (h : c.isDigit = true) :
    decimalValue? c = some (c.toNat - '0'.toNat) := by
  have hrange := toNat_of_isDigit h
  have hascii : c.toNat < 128 := by omega
  rw [decimalValue?, if_pos hascii, if_pos h]

theorem isDecimal_of_isDigit {c : Char} (h : c.isDigit = true) : isDecimal c = true := by
  rw [isDecimal, decimalValue_of_isDigit h]
  rfl

/-- A row of digits is worth the number it is in decimal notation. -/
theorem value_of_isDigit {s : List Char} (h : ∀ c ∈ s, c.isDigit = true) :
    value (s.filterMap decimalValue?) = Nat.ofDigitChars 10 s 0 := by
  have hvalues : s.filterMap decimalValue? = s.map fun c => c.toNat - '0'.toNat := by
    induction s with
    | nil => rfl
    | cons c s ih =>
      obtain ⟨hc, hs⟩ := List.forall_mem_cons.mp h
      rw [List.filterMap_cons_some (decimalValue_of_isDigit hc), ih hs, List.map_cons]
  rw [hvalues, value, List.foldl_map]
  rfl

section
variable {s text : List Char}

/-- The digits of a legible text make numerals. -/
theorem Legible.ofDigits (hl : Legible text) {run : List Char} (hrun : run <:+: text)
    (h : ∀ c ∈ run, isDecimal c = true) (negative : Bool) :
    ∃ n, Numeral.ofDigits negative (run.filterMap decimalValue?) = .ok n :=
  ⟨_, ofDigits_row negative (hl.short run hrun h)⟩

theorem Legible.read_of_isDigits (hl : Legible text) (hs : s <:+: text) (h : isDigits s = true) :
    ∃ n, Numeral.read s = .ok n := by
  simp only [isDigits, Bool.and_eq_true, Bool.not_eq_true', List.isEmpty_eq_false_iff,
    List.all_eq_true] at h
  have hdecimal : ∀ c ∈ s, isDecimal c = true := fun c hc =>
    hl.decimal c (hs.subset hc) (h.2 c hc)
  exact ⟨_, read_of_isDecimal h.1 hdecimal (hl.short s hs hdecimal)⟩

/-- A minus or nothing. -/
def signOf (negative : Bool) : List Char := if negative then ['-'] else []

/-- A sign and digits are all that is split off. -/
theorem exists_run_of_readSigned {negative : Bool} {digits : List Nat} {rest : List Char}
    (h : readSigned s = some ((negative, digits), rest)) :
    ∃ run, s = signOf negative ++ (run ++ rest) ∧ run ≠ [] ∧
      (∀ c ∈ run, isDecimal c = true) ∧ digits = run.filterMap decimalValue? := by
  obtain ⟨body, hbody, hne, hdigits, hrest⟩ : ∃ body, s = signOf negative ++ body ∧ digits ≠ [] ∧
      digits = (body.takeWhile isDecimal).filterMap decimalValue? ∧
        rest = body.dropWhile isDecimal := by
    unfold readSigned at h
    split at h
    rename_i heq
    dsimp only at h
    split at h
    · cases h
    · rename_i hempty
      cases h
      rw [List.isEmpty_iff] at hempty
      split at heq
      · cases heq
        exact ⟨_, rfl, hempty, rfl, rfl⟩
      · cases heq
        exact ⟨_, rfl, hempty, rfl, rfl⟩
  refine ⟨body.takeWhile isDecimal, ?_, ?_, of_mem_takeWhile isDecimal body, hdigits⟩
  · rw [hbody, hrest, List.takeWhile_append_dropWhile]
  · intro hnil
    rw [hnil] at hdigits
    exact hne hdigits

/-- A sign and digits are split off as far as the digits go. -/
theorem readSigned_append (negative : Bool) {run rest : List Char} (hne : run ≠ [])
    (hdecimal : ∀ c ∈ run, isDecimal c = true) (hrest : ∀ c ∈ rest.head?, isDecimal c = false) :
    readSigned (signOf negative ++ (run ++ rest)) =
      some ((negative, run.filterMap decimalValue?), rest) := by
  obtain ⟨d, ds, hrun⟩ := List.exists_cons_of_ne_nil hne
  have hd : isDecimal d = true := hdecimal d (by simp [hrun])
  have hvalues : run.filterMap decimalValue? ≠ [] := by
    obtain ⟨n, hn⟩ := Option.isSome_iff_exists.mp hd
    simp [hrun, hn]
  have hminus : d ≠ '-' := by
    rintro rfl
    exact absurd hd (by decide)
  obtain ⟨htake, hdrop⟩ := span_append hdecimal hrest
  cases negative
  · simp only [signOf, Bool.false_eq_true, if_false, List.nil_append]
    unfold readSigned
    split
    rename_i heq
    split at heq
    · rename_i hcons
      rw [hrun, List.cons_append] at hcons
      exact absurd (List.cons.inj hcons).1 hminus
    · cases heq
      simp [htake, hdrop, hvalues]
  · simp [signOf, readSigned, htake, hdrop, hvalues]

/-- A sign and digits: what is split off ends the text, and the digits are a run in it. -/
theorem readSigned_eq_some {negative : Bool} {digits : List Nat} {rest : List Char}
    (h : readSigned s = some ((negative, digits), rest)) : rest <:+ s ∧
      ∃ run, run <:+: s ∧ (∀ c ∈ run, isDecimal c = true) ∧
        digits = run.filterMap decimalValue? := by
  obtain ⟨run, rfl, -, hdecimal, hdigits⟩ := exists_run_of_readSigned h
  refine ⟨(List.suffix_append run rest).trans (List.suffix_append _ _), run, ?_, hdecimal, hdigits⟩
  exact ⟨signOf negative, rest, List.append_assoc _ _ _⟩

theorem Legible.readPlain_eq_some (hl : Legible text) (hs : s <:+: text)
    {x : Except NumeralFault Int} (h : Numeral.readPlain s = some x) : ∃ n, x = .ok n := by
  unfold readPlain at h
  split at h
  · rename_i negative digits rest hread
    obtain ⟨-, run, hrun, hdecimal, rfl⟩ := readSigned_eq_some hread
    split at h
    · cases h
      have hinfix : run <:+: text := (hrun.trans (List.dropWhile_suffix _).isInfix).trans hs
      exact hl.ofDigits hinfix hdecimal negative
    · cases h
  · cases h

end

/-! Integers with blanks around them. -/

/-- An integer as it may be written: blanks, perhaps a minus, decimal digits, blanks. -/
structure Figure where
  before : List Char
  negative : Bool
  digits : List Char
  after : List Char
  blank_before : ∀ c ∈ before, isBlank c = true
  ne_nil : digits ≠ []
  decimal : ∀ c ∈ digits, isDecimal c = true
  blank_after : ∀ c ∈ after, isBlank c = true

namespace Figure
variable (i : Figure)

def text : List Char := i.before ++ (signOf i.negative ++ (i.digits ++ i.after))

/-- The integer that is written. -/
def value : Int :=
  if i.negative then -(Numeral.value (i.digits.filterMap decimalValue?) : Int)
  else Numeral.value (i.digits.filterMap decimalValue?)

theorem trimLeft_text : trimLeft i.text = signOf i.negative ++ (i.digits ++ i.after) := by
  obtain ⟨d, ds, hdigits⟩ := List.exists_cons_of_ne_nil i.ne_nil
  have hd : isBlank d = false := isBlank_of_isDecimal (i.decimal d (by simp [hdigits]))
  have hminus : isBlank '-' = false := by decide
  rw [trimLeft, text, List.dropWhile_append_of_pos i.blank_before]
  cases hsign : i.negative
  · simp [signOf, hdigits, hd]
  · simp [signOf, hminus]

theorem readSigned_text : readSigned (signOf i.negative ++ (i.digits ++ i.after)) =
    some ((i.negative, i.digits.filterMap decimalValue?), i.after) := by
  apply readSigned_append i.negative i.ne_nil i.decimal
  -- a blank ends the digits
  intro c hc
  rw [Bool.eq_false_iff]
  intro hdecimal
  have hblank := i.blank_after c (List.mem_of_mem_head? hc)
  rw [isBlank_of_isDecimal hdecimal] at hblank
  cases hblank

/-- The values of the digits. -/
def values : List Nat := i.digits.filterMap decimalValue?

theorem length_values : i.values.length = i.digits.length :=
  List.filterMap_length_eq_length.mpr i.decimal

/-- An integer is read, unless it is too long. -/
theorem readPlain_text_eq : readPlain i.text = some (Numeral.ofDigits i.negative i.values) := by
  have hblank : isBlankText i.after = true := List.all_eq_true.mpr i.blank_after
  rw [readPlain, i.trimLeft_text, i.readSigned_text]
  simp [hblank, values]

/-- An integer that is not too long is read. -/
theorem readPlain_text (h : i.digits.length ≤ maxDigits) :
    readPlain i.text = some (.ok i.value) := by
  rw [i.readPlain_text_eq]
  exact congrArg some (ofDigits_row i.negative h)

end Figure

/-- Whatever is read is an integer with blanks around it. -/
theorem exists_figure_of_readPlain {s : List Char} {x : Except NumeralFault Int}
    (h : readPlain s = some x) : ∃ i : Figure, i.text = s := by
  unfold readPlain at h
  split at h
  · rename_i negative values rest hread
    obtain ⟨run, hrun, hne, hdecimal, -⟩ := exists_run_of_readSigned hread
    split at h
    · rename_i hblank
      have hbefore := of_mem_takeWhile isBlank s
      refine ⟨⟨s.takeWhile isBlank, negative, run, rest, hbefore, hne, hdecimal,
        List.all_eq_true.mp hblank⟩, ?_⟩
      dsimp only [Figure.text]
      rw [← hrun]
      exact List.takeWhile_append_dropWhile
    · cases h
  · cases h

end DialogueMarkup.Numeral
