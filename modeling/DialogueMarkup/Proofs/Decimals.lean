import Mathlib.Data.Nat.Digits.Defs
import DialogueMarkup.Proofs.Settling

/-! The decimal digits of a text. Directives give way to parts of themselves, and a number is
written with no more digits than it was read from, so that digits may come together but never come
into a text. A numeral that is too long for a number code was paid for, digit by digit, by the text
that was to be displayed. -/
namespace DialogueMarkup
open Text Markup

/-- The number of decimal digits in a text. -/
def decimals (s : List Char) : Nat := s.countP isDecimal

section
variable {s t : List Char}

theorem decimals_append (s t : List Char) : decimals (s ++ t) = decimals s + decimals t :=
  List.countP_append

theorem decimals_le_of_isInfix (h : s <:+: t) : decimals s ≤ decimals t := h.sublist.countP_le

theorem decimals_le_length (s : List Char) : decimals s ≤ s.length := List.countP_le_length

theorem decimals_eq_length (h : ∀ c ∈ s, isDecimal c = true) : decimals s = s.length :=
  List.countP_eq_length.mpr h

end

namespace Numeral

/-! Reading and writing a number. -/

theorem lt_ten_of_decimalValue {c : Char} {d : Nat} (h : decimalValue? c = some d) : d < 10 := by
  unfold decimalValue? at h
  split at h
  · split at h
    · rename_i hdigit
      have hrange : 48 ≤ c.toNat ∧ c.toNat ≤ 57 := by
        simpa [Char.isDigit, UInt32.le_iff_toNat_le] using hdigit
      have hd : c.toNat - 48 = d := Option.some.inj h
      omega
    · cases h
  · obtain ⟨z, hz, hd⟩ := Option.map_eq_some_iff.mp h
    have hrange : z ≤ c.toNat ∧ c.toNat ≤ z + 9 := by simpa using List.find?_some hz
    omega

/-- A row of digits is worth less than a one with as many zeros. -/
theorem value_lt {digits : List Nat} (h : ∀ d ∈ digits, d < 10) :
    value digits < 10 ^ digits.length := by
  -- the digits that were read before are worth `a`
  have hfold (a : Nat) : digits.foldl (10 * · + ·) a < (a + 1) * 10 ^ digits.length := by
    induction digits generalizing a with
    | nil => simp
    | cons d digits ih =>
      obtain ⟨hd, hdigits⟩ := List.forall_mem_cons.mp h
      have hstep : 10 * a + d + 1 ≤ (a + 1) * 10 := by omega
      calc (d :: digits).foldl (10 * · + ·) a
          < (10 * a + d + 1) * 10 ^ digits.length := ih hdigits (10 * a + d)
        _ ≤ (a + 1) * 10 * 10 ^ digits.length := Nat.mul_le_mul_right _ hstep
        _ = (a + 1) * 10 ^ (d :: digits).length := by
          rw [List.length_cons, Nat.pow_succ, Nat.mul_assoc, Nat.mul_comm 10]
  simpa [value] using hfold 0

theorem decimals_write_le {n : Int} {k : Nat} (hk : 0 < k) (hn : n.natAbs < 10 ^ k) :
    decimals (write n) ≤ k := by
  have hnat : decimals (writeNat n.natAbs) ≤ k :=
    Nat.le_trans (decimals_le_length _) (Nat.toDigits_length 10 n.natAbs k hk hn)
  unfold write
  split
  · have hminus : decimals ['-'] = 0 := by decide
    have hsum := decimals_append ['-'] (writeNat n.natAbs)
    rw [List.singleton_append, hminus, Nat.zero_add] at hsum
    exact hsum ▸ hnat
  · exact hnat

/-! An integer that is written and read again. -/

theorem isDigit_of_mem_writeNat {n : Nat} {c : Char} (h : c ∈ writeNat n) : c.isDigit = true :=
  Nat.isDigit_of_mem_toDigits (by decide) (by decide) h

theorem isDecimal_of_mem_writeNat {n : Nat} {c : Char} (h : c ∈ writeNat n) :
    isDecimal c = true := isDecimal_of_isDigit (isDigit_of_mem_writeNat h)

/-- The digits of a number are worth that number. -/
theorem value_writeNat (n : Nat) : value ((writeNat n).filterMap decimalValue?) = n := by
  rw [value_of_isDigit fun c => isDigit_of_mem_writeNat]
  exact Nat.ofDigitChars_toDigits (by decide) (by decide)

/-- An integer that is short enough to be read is read as it was written. -/
theorem read_write {n : Int} (h : n.natAbs < 10 ^ maxDigits) : read (write n) = .ok n := by
  have hne : writeNat n.natAbs ≠ [] := Nat.toDigits_ne_nil
  have hdecimal : ∀ c ∈ writeNat n.natAbs, isDecimal c = true := fun c =>
    isDecimal_of_mem_writeNat
  have hlength : (writeNat n.natAbs).length ≤ maxDigits :=
    (Nat.length_toDigits_le_iff (by decide) (by decide)).mpr h
  have hread (negative : Bool) : ofDigits negative ((writeNat n.natAbs).filterMap decimalValue?) =
      .ok (if negative then -(n.natAbs : Int) else n.natAbs) := by
    rw [ofDigits_row negative hlength, value_writeNat]
  unfold write
  split
  · next hneg =>
    have hsign : readSign (('-' :: writeNat n.natAbs).dropWhile isPadding) =
        (true, writeNat n.natAbs) := by
      rw [List.dropWhile_cons_of_neg (by decide)]
      rfl
    simp only [read, hsign, readDigits_of_isDecimal hne hdecimal, hread, List.all_nil, if_true]
    congr 1
    omega
  · next hpos =>
    simp only [read, readSign_of_isDecimal hne hdecimal, readDigits_of_isDecimal hne hdecimal,
      hread, List.all_nil, if_true, Bool.false_eq_true, if_false]
    congr 1
    omega

namespace Figure
variable (i : Figure)

theorem length_digits_le : i.digits.length ≤ decimals i.text := by
  have hdigits : i.digits <:+: i.text :=
    ⟨i.before ++ signOf i.negative, i.after, by simp [text]⟩
  rw [← decimals_eq_length i.decimal]
  exact decimals_le_of_isInfix hdigits

theorem value_lt : i.value.natAbs < 10 ^ i.digits.length := by
  have hsmall : ∀ d ∈ i.values, d < 10 := by
    intro d hd
    obtain ⟨c, -, hc⟩ := List.mem_filterMap.mp hd
    exact lt_ten_of_decimalValue hc
  have hlt := Numeral.value_lt hsmall
  rw [i.length_values] at hlt
  have habs : i.value.natAbs = Numeral.value i.values := by
    unfold value values
    split <;> simp
  rw [habs]
  exact hlt

end Figure

/-- What is read from an integer: its value, or the complaint that it is too long. -/
theorem readPlain_ends {s : List Char} {x : Except NumeralFault Int} (h : readPlain s = some x) :
    (∃ n, x = .ok n ∧ decimals (write n) ≤ decimals s) ∨
      ∃ n, x = .error (.tooLong n) ∧ maxDigits < n ∧ n ≤ decimals s := by
  obtain ⟨i, rfl⟩ := exists_figure_of_readPlain h
  -- leading zeros count for the length, but are not written again
  obtain rfl := Option.some.inj (i.readPlain_text_eq.symm.trans h)
  by_cases hshort : i.digits.length ≤ maxDigits
  · left
    have hok := Option.some.inj (i.readPlain_text_eq.symm.trans (i.readPlain_text hshort))
    have hpos : 0 < i.digits.length := List.length_pos_iff.mpr i.ne_nil
    exact ⟨i.value, hok,
      Nat.le_trans (decimals_write_le hpos i.value_lt) i.length_digits_le⟩
  · right
    have hlong : maxDigits < i.digits.length := Nat.lt_of_not_le hshort
    refine ⟨i.digits.length, ?_, hlong, i.length_digits_le⟩
    rw [ofDigits, i.length_values, if_pos hlong]

end Numeral

namespace English

/-- The words for numbers, and the suffixes of ordinals, hold no digit. -/
theorem decimals_wordOf_le {words : List String}
    (hwords : (words.all fun w => decimals w.toList == 0) = true) {s : List Char} (n : Int) :
    decimals ((wordOf? words n).getD s) ≤ decimals s := by
  unfold wordOf?
  split
  · cases hget : words[n.toNat - 1]? with
    | none => exact Nat.le_refl _
    | some w =>
      have hzero := List.all_eq_true.mp hwords w (List.mem_of_getElem? hget)
      have hw : decimals w.toList = 0 := beq_iff_eq.mp hzero
      show decimals w.toList ≤ decimals s
      omega
  · exact Nat.le_refl _

theorem decimals_ordinal (n : Int) : decimals (ordinal n) = decimals (Numeral.write n) := by
  have hsuffix : decimals (ordinalSuffix n) = 0 := by
    unfold ordinalSuffix
    split
    · rfl
    · split <;> rfl
  rw [ordinal, decimals_append, hsuffix, Nat.add_zero]

theorem decimals_cardinal_le (n : Int) : decimals (cardinal n) ≤ decimals (Numeral.write n) :=
  decimals_wordOf_le (by decide) n

theorem decimals_ordinalInWords_le (n : Int) :
    decimals (ordinalInWords n) ≤ decimals (Numeral.write n) :=
  Nat.le_trans (decimals_wordOf_le (by decide) n) (Nat.le_of_eq (decimals_ordinal n))

end English

namespace Grammar

section
variable {escape : Char} {name s argument rest : List Char}

theorem readNumberCode_eq_some (h : readNumberCode escape name s = some (argument, rest)) :
    ∃ code, s = code ++ (argumentSource argument ++ rest) := by
  simp only [readNumberCode, Option.bind_eq_bind, Option.bind_eq_some_iff] at h
  obtain ⟨⟨⟨e, spelling⟩, t⟩, hcode, hargument⟩ := h
  have ht : t = argumentSource argument ++ rest := readArgument_eq_some hargument
  rw [readCode_eq_some hcode, ht]
  exact ⟨e :: spelling, rfl⟩

theorem readNumberCode_consumes (escape : Char) (name : List Char) :
    (readNumberCode escape name).Consumes := by
  intro s argument rest h
  obtain ⟨code, rfl⟩ := readNumberCode_eq_some h
  simp only [argumentSource, List.length_append, List.length_cons]
  omega

/-- What a number code takes out of a text: its argument, and a rest that ends the text. -/
theorem decimals_of_readNumberCode (h : readNumberCode escape name s = some (argument, rest)) :
    rest <:+ s ∧ decimals argument + decimals rest ≤ decimals s := by
  obtain ⟨code, rfl⟩ := readNumberCode_eq_some h
  have hin : decimals argument ≤ decimals (argumentSource argument) :=
    decimals_le_of_isInfix ⟨['['], [']'], rfl⟩
  refine ⟨(List.suffix_append _ rest).trans (List.suffix_append code _), ?_⟩
  rw [decimals_append, decimals_append]
  omega

end

/-- A complaint about a numeral that is too long, in a text with a number of digits. -/
def TooLong (digits : Nat) (fault : NumeralFault) : Prop :=
  ∃ n, fault = .tooLong n ∧ Numeral.maxDigits < n ∧ n ≤ digits

theorem TooLong.mono {digits more : Nat} {fault : NumeralFault} (h : TooLong digits fault)
    (hle : digits ≤ more) : TooLong more fault := by
  obtain ⟨n, rfl, hlong, hdigits⟩ := h
  exact ⟨n, rfl, hlong, Nat.le_trans hdigits hle⟩

/-- A stage of the writing that brings no digit into a text, and complains of nothing but numerals
that are too long. -/
structure Sparing (stage : List Char → Except NumeralFault (List Char)) : Prop where
  le : ∀ s t, stage s = .ok t → decimals t ≤ decimals s
  tooLong : ∀ s fault, stage s = .error fault → TooLong (decimals s) fault

/-- One stage after another. -/
theorem Sparing.bind {stage next : List Char → Except NumeralFault (List Char)}
    (h : Sparing stage) (h' : Sparing next) : Sparing fun s => stage s >>= next := by
  constructor
  · intro s t ht
    obtain ⟨u, hu, hnext⟩ := bind_eq_ok ht
    exact Nat.le_trans (h'.le u t hnext) (h.le s u hu)
  · intro s fault hfault
    cases hu : stage s with
    | error early =>
      rw [hu] at hfault
      cases hfault
      exact h.tooLong s fault hu
    | ok u =>
      rw [hu] at hfault
      exact (h'.tooLong u fault hfault).mono (h.le s u hu)

section
variable {f : Int → List Char} (hf : ∀ n, decimals (f n) ≤ decimals (Numeral.write n))
include hf

/-- A number code writes no more digits than its argument has, or finds it too long. -/
theorem writeNumber_sparing : Sparing (writeNumber f) := by
  constructor
  · intro argument part hpart
    unfold writeNumber at hpart
    split at hpart
    · cases hpart
      exact decimals_le_of_isInfix (trim_isInfix argument)
    · rename_i x hread
      rcases Numeral.readPlain_ends hread with ⟨n, rfl, hn⟩ | ⟨n, rfl, -⟩
      · cases hpart
        exact Nat.le_trans (hf n) hn
      · cases hpart
  · intro argument fault hfault
    unfold writeNumber at hfault
    split at hfault
    · cases hfault
    · rename_i x hread
      rcases Numeral.readPlain_ends hread with ⟨n, rfl, -⟩ | ⟨n, rfl, hlong⟩
      · cases hfault
      · cases hfault
        exact ⟨n, rfl, hlong⟩

theorem sparing_number (escape : Char) (name : List Char) :
    Sparing (replaceMarksM (readNumberCode escape name) (writeNumber f)) := by
  have hwrite := writeNumber_sparing hf
  have hconsumes := readNumberCode_consumes escape name
  constructor
  · intro s t ht
    -- every mark gives up the digits of its argument and gets no more in their place
    have hcount := measure_of_replaceMarksM hconsumes decimals_append (n := 0) ?_ ht
    · omega
    · intro u argument rest part hread hpart
      have hle := hwrite.le argument part hpart
      have htaken := (decimals_of_readNumberCode hread).2
      omega
  · intro s fault hfault
    -- the argument that cannot be read stands somewhere in the text, with all its digits
    obtain ⟨argument, hmem, hargument⟩ := exists_mark_of_replaceMarksM_error hconsumes hfault
    obtain ⟨t, rest, ht, hread⟩ := exists_read_of_mem_marks hconsumes
      (fun u a r h => (decimals_of_readNumberCode h).1) hmem
    apply (hwrite.tooLong argument fault hargument).mono
    have htaken := (decimals_of_readNumberCode hread).2
    have hpart := decimals_le_of_isInfix ht.isInfix
    omega

end

/-- The writing of grammar codes fails only for a numeral that is longer than a numeral may be. -/
theorem tooLong_of_apply_eq_error {escape : Char} {s : List Char} {fault : NumeralFault}
    (h : apply escape s = .error fault) : TooLong (decimals s) fault := by
  have hnumbers := (sparing_number English.decimals_cardinal_le escape "NUMWORD".toList).bind
    ((sparing_number English.decimals_ordinalInWords_le escape "ORDWORD".toList).bind
      (sparing_number (fun n => Nat.le_of_eq (English.decimals_ordinal n)) escape "ORD".toList))
  apply hnumbers.tooLong s fault
  show (numberWords escape s >>= ordinals escape) = .error fault
  -- folds and articles come last and fail for nothing
  have hlast : apply escape s = (numberWords escape s >>= ordinals escape).map
      fun t => articles escape (folds escape t) := by
    rw [apply]
    cases numberWords escape s with
    | error early => rfl
    | ok t =>
      show (ordinals escape t >>= _) = (ordinals escape t).map _
      cases ordinals escape t <;> rfl
  rw [hlast] at h
  exact map_eq_error h

end Grammar

/-- Resolving the directives of a text brings no digit into it. -/
theorem Expansion.decimals_of_directives {st : State} {current : Scope} {escape : Char}
    {maxPasses : Option Int} {s t : List Char}
    (h : directives st current escape maxPasses s = .ok t) : decimals t ≤ decimals s :=
  -- neither braces nor guards are digits
  countP_of_directives (by decide) (by decide) h

end DialogueMarkup
