import DialogueMarkup.Proofs.OperandGrammar

/-! The grammar of switches. A switch is a sigil, a letter or a number, and for a self switch
perhaps an address. What this grammar derives is what is read, and everything else is found
malformed. -/
namespace DialogueMarkup
open Text Markup

/-- How the slot of a switch is written. -/
def SwitchSlot.Spelled : SwitchSlot → List Char → Prop
  | letter c, s => s = [c] ∧ c.toUpper ∈ selfLetters
  | digits values, s => IsDigitRow s ∧ values = s.filterMap decimalValue?

/-- What a token without blanks around it means as a switch. A letter is a self switch under every
sigil, a number is one behind the self sigil alone; only self switches take an address. -/
inductive Operand.SwitchSpelled : List Char → Operand → Prop
  | letter {sigil : Sigil} {spelling suffix : List Char} {c : Char}
      {container context : Option Place} (hsigil : sigil.Spelled 's' spelling)
      (hc : c.toUpper ∈ selfLetters) (hsuffix : AddressSpelled suffix container context) :
      SwitchSpelled (spelling ++ c :: suffix)
        (.self ⟨.switch, .name [c.toUpper], container, context, spelling ++ c :: suffix⟩)
  | number {spelling row suffix : List Char} {container context : Option Place}
      (hsigil : Sigil.self.Spelled 's' spelling) (hrow : IsDigitRow row)
      (hsuffix : AddressSpelled suffix container context) :
      SwitchSpelled (spelling ++ (row ++ suffix))
        (.self ⟨.switch, .number (Nat.ofDigitChars 10 row 0), container, context,
          spelling ++ (row ++ suffix)⟩)
  | global {sigil : Sigil} {spelling row : List Char} (hsigil : sigil.Spelled 's' spelling)
      (hself : sigil ≠ .self) (hrow : IsDigitRow row) :
      SwitchSpelled (spelling ++ row) (.global .switch (Nat.ofDigitChars 10 row 0))

section
variable {c : Char} (hc : c.toNat < 128)
include hc

theorem isSelfLetter_of_ascii : isSelfLetter c = true ↔ c.toUpper ∈ selfLetters := by
  have hsmall : ∀ n ∈ List.range 128,
      isSelfLetter (Char.ofNat n) = true ↔ (Char.ofNat n).toUpper ∈ selfLetters :=
    forall_mem_of_all (by decide)
  exact of_ascii (p := fun c => isSelfLetter c = true ↔ c.toUpper ∈ selfLetters) hc hsmall

end

theorem toNat_lt_of_isSelfLetter {c : Char} (h : isSelfLetter c = true) : c.toNat < 128 := by
  have hrange : 'A' ≤ c ∧ c ≤ 'D' ∨ 'a' ≤ c ∧ c ≤ 'd' := by simpa [isSelfLetter] using h
  simp only [Char.le_def, UInt32.le_iff_toNat_le] at hrange
  have hle : c.toNat ≤ 100 := by
    rcases hrange with ⟨-, hle⟩ | ⟨-, hle⟩
    · exact Nat.le_trans hle (by decide)
    · exact hle
  omega

/-- The letters of self switches belong to no sigil, and they are no digits. -/
theorem apart_of_isSelfLetter {c : Char} (h : isSelfLetter c = true) :
    c.toLower ≠ 's' ∧ c.toLower ≠ 'v' ∧ isDecimal c = false := by
  have hsmall : ∀ n ∈ List.range 128, isSelfLetter (Char.ofNat n) = true →
      (Char.ofNat n).toLower ≠ 's' ∧ (Char.ofNat n).toLower ≠ 'v' ∧
        isDecimal (Char.ofNat n) = false := forall_mem_of_all (by decide)
  exact of_ascii (p := fun c => isSelfLetter c = true →
    c.toLower ≠ 's' ∧ c.toLower ≠ 'v' ∧ isDecimal c = false) (toNat_lt_of_isSelfLetter h) hsmall h

section
variable {s token t rest : List Char} {slot : SwitchSlot} {sigil : Sigil}
  {address : Option (List Char)}

theorem exists_slot_of_readSwitchSlot (hs : ∀ c ∈ s, c.toNat < 128)
    (h : readSwitchSlot s = some (slot, rest)) : ∃ t, s = t ++ rest ∧ slot.Spelled t := by
  cases s with
  | nil => cases h
  | cons c s =>
    simp only [readSwitchSlot] at h
    split at h
    · rename_i hletter
      cases h
      exact ⟨[c], rfl, rfl, (isSelfLetter_of_ascii (hs c List.mem_cons_self)).mp hletter⟩
    · split at h
      · cases h
      · rename_i hvalues
        cases h
        refine ⟨(c :: s).takeWhile isDecimal, List.takeWhile_append_dropWhile.symm, ⟨?_, ?_⟩, rfl⟩
        · intro hnil
          simp [hnil] at hvalues
        · intro d hd
          have hascii := hs d (List.takeWhile_subset isDecimal hd)
          exact isDecimal_of_ascii hascii ▸ of_mem_takeWhile isDecimal (c :: s) d hd

theorem SwitchSlot.Spelled.head (ht : ∀ c ∈ t, c.toNat < 128) (h : slot.Spelled t) :
    ∃ c behind, t = c :: behind ∧ c.toLower ≠ 's' ∧ c.toLower ≠ 'v' := by
  cases slot with
  | letter c =>
    obtain ⟨rfl, hc⟩ := h
    have hascii : c.toNat < 128 := ht c List.mem_cons_self
    obtain ⟨hs, hv, -⟩ := apart_of_isSelfLetter ((isSelfLetter_of_ascii hascii).mpr hc)
    exact ⟨c, [], rfl, hs, hv⟩
  | digits values =>
    obtain ⟨⟨hne, hdigits⟩, -⟩ := h
    obtain ⟨c, behind, rfl⟩ := List.exists_cons_of_ne_nil hne
    exact ⟨c, behind, rfl,
      toLower_ne_of_isDigit (ht c List.mem_cons_self) (hdigits c List.mem_cons_self)⟩

/-- A row of digits of any script is split off as a slot up to its end. -/
theorem readSwitchSlot_digits {row : List Char} (hne : row ≠ [])
    (hdecimal : ∀ c ∈ row, isDecimal c = true) (hrest : ∀ c ∈ rest.head?, isDecimal c = false) :
    readSwitchSlot (row ++ rest) = some (.digits (row.filterMap decimalValue?), rest) := by
  obtain ⟨d, behind, rfl⟩ := List.exists_cons_of_ne_nil hne
  have hd : isDecimal d = true := hdecimal d List.mem_cons_self
  have hletter : isSelfLetter d = false := by
    rw [Bool.eq_false_iff]
    intro hself
    rw [(apart_of_isSelfLetter hself).2.2] at hd
    cases hd
  obtain ⟨htake, hdrop⟩ := span_append hdecimal hrest
  have hvalues : (d :: behind).filterMap decimalValue? ≠ [] := by
    obtain ⟨n, hn⟩ := Option.isSome_iff_exists.mp hd
    simp [hn]
  rw [List.cons_append] at htake hdrop ⊢
  simp only [readSwitchSlot, hletter, htake, hdrop]
  simp [hvalues]

theorem readSwitchSlot_append (hs : ∀ c ∈ t ++ rest, c.toNat < 128) (h : slot.Spelled t)
    (hrest : ∀ c ∈ rest.head?, isDecimal c = false) :
    readSwitchSlot (t ++ rest) = some (slot, rest) := by
  cases slot with
  | letter c =>
    obtain ⟨rfl, hc⟩ := h
    have hletter : isSelfLetter c = true := (isSelfLetter_of_ascii (hs c (by simp))).mpr hc
    simp [readSwitchSlot, hletter]
  | digits values =>
    obtain ⟨⟨hne, hdigits⟩, rfl⟩ := h
    have hdecimal : ∀ c ∈ t, isDecimal c = true :=
      fun c hc => Numeral.isDecimal_of_isDigit (hdigits c hc)
    exact readSwitchSlot_digits hne hdecimal hrest

theorem reads_switchSlot : Reads readSwitchSlot SwitchSlot.Spelled where
  written := exists_slot_of_readSwitchSlot
  read := readSwitchSlot_append
  head := SwitchSlot.Spelled.head

/-- A switch is read where its sigil, its slot and perhaps an address stand one behind the other. -/
theorem readSwitch?_eq_some_iff (hs : ∀ c ∈ token, c.toNat < 128) :
    readSwitch? token = some (sigil, slot, address) ↔
      ∃ spelling t suffix, token = spelling ++ (t ++ suffix) ∧ sigil.Spelled 's' spelling ∧
        slot.Spelled t ∧ readAddress? suffix = some address := by
  rw [readSwitch?_eq]
  exact readPartsOf_eq_some_iff reads_switchSlot (Or.inl rfl) hs

end

namespace Operand
variable {text : List Char} {operand : Operand}

/-- What is read is derived. -/
theorem switchSpelled_of_parseSwitch (h : PlainAscii text)
    (hparse : parseSwitch text = .ok operand) : SwitchSpelled (trim text) operand := by
  have htoken : PlainAscii (trim text) := h.of_isInfix (trim_isInfix text)
  cases hread : readSwitch? (trim text) with
  | none => simp [parseSwitch, hread] at hparse
  | some parts =>
    obtain ⟨sigil, slot, address⟩ := parts
    obtain ⟨spelling, t, suffix, htrim, hspelling, hslot, haddress⟩ :=
      (readSwitch?_eq_some_iff htoken.ascii).mp hread
    rw [htrim] at htoken
    simp only [parseSwitch, hread] at hparse
    -- the address is read first, whatever the slot has to say about it
    obtain ⟨⟨container, context⟩, hplaces, hparse⟩ := bind_eq_ok hparse
    have haddressed : AddressSpelled suffix container context :=
      (addressSpelled_iff htoken.right.right text).mp ⟨address, haddress, hplaces⟩
    rw [htrim] at hparse ⊢
    cases slot with
    | letter c =>
      obtain ⟨rfl, hc⟩ := hslot
      cases hparse
      exact .letter hspelling hc haddressed
    | digits values =>
      obtain ⟨hrow, rfl⟩ := hslot
      dsimp only at hparse
      rw [htoken.right.left.ofDigits_eq false hrow] at hparse
      by_cases hself : sigil = .self
      · subst hself
        cases hparse
        exact .number hspelling hrow haddressed
      · rw [if_neg hself] at hparse
        rcases readAddress?_eq_some_iff.mp haddress with ⟨rfl, rfl⟩ | ⟨a, rfl, rfl, -⟩
        · cases hparse
          rw [List.append_nil]
          exact .global hspelling hself hrow
        · cases hparse

/-- What is derived is read. -/
theorem SwitchSpelled.parseSwitch_eq_ok (h : PlainAscii text)
    (hspelled : SwitchSpelled (trim text) operand) : parseSwitch text = .ok operand := by
  have htoken : PlainAscii (trim text) := h.of_isInfix (trim_isInfix text)
  generalize htrim : trim text = token at hspelled
  rw [htrim] at htoken
  cases hspelled with
  | @letter sigil spelling suffix c container context hsigil hc hsuffix =>
    obtain ⟨address, haddress, hplaces⟩ :=
      (addressSpelled_iff htoken.right.tail text).mpr hsuffix
    have hread : readSwitch? (spelling ++ c :: suffix) = some (sigil, .letter c, address) :=
      (readSwitch?_eq_some_iff htoken.ascii).mpr
        ⟨spelling, [c], suffix, rfl, hsigil, ⟨rfl, hc⟩, haddress⟩
    simp only [parseSwitch, htrim, hread, hplaces]
    rfl
  | @number spelling row suffix container context hsigil hrow hsuffix =>
    obtain ⟨address, haddress, hplaces⟩ :=
      (addressSpelled_iff htoken.right.right text).mpr hsuffix
    have hread : readSwitch? (spelling ++ (row ++ suffix)) =
        some (.self, .digits (row.filterMap decimalValue?), address) :=
      (readSwitch?_eq_some_iff htoken.ascii).mpr
        ⟨spelling, row, suffix, rfl, hsigil, ⟨hrow, rfl⟩, haddress⟩
    have hnumber := htoken.right.left.ofDigits_eq false hrow
    simp only [parseSwitch, htrim, hread, hplaces, hnumber]
    rfl
  | @global sigil spelling row hsigil hself hrow =>
    have hread : readSwitch? (spelling ++ row) =
        some (sigil, .digits (row.filterMap decimalValue?), none) :=
      (readSwitch?_eq_some_iff htoken.ascii).mpr
        ⟨spelling, row, [], by rw [List.append_nil], hsigil, ⟨hrow, rfl⟩, rfl⟩
    have hnumber := htoken.right.ofDigits_eq false hrow
    simp only [parseSwitch, htrim, hread, hnumber, parseAddress]
    simp only [hself]
    rfl

/-- The operand of a switch condition is read exactly if the text without the blanks around it is
derived in the grammar, and as what it is derived for. Every other text is found malformed. -/
theorem parseSwitch_iff_spelled (h : PlainAscii text) :
    (∀ operand, parseSwitch text = .ok operand ↔ SwitchSpelled (trim text) operand) ∧
      ((¬ ∃ operand, SwitchSpelled (trim text) operand) →
        ∃ cause, parseSwitch text = .error (.malformed cause text)) := by
  refine ⟨fun operand => ⟨switchSpelled_of_parseSwitch h, SwitchSpelled.parseSwitch_eq_ok h⟩,
    fun hno => ?_⟩
  rcases Fault.ok_or_malformed h.legible (parseSwitch_ends text) with ⟨operand, hok⟩ | hmalformed
  · exact absurd ⟨operand, switchSpelled_of_parseSwitch h hok⟩ hno
  · exact hmalformed

theorem parseSwitch_iff_spelled_address :
    PlainAscii " SsA@Town : 04 ".toList ∧
      SwitchSpelled "SsA@Town : 04".toList (.self ⟨.switch, .name ['A'],
        some (.name "Town".toList), some (.id 4), "SsA@Town : 04".toList⟩) ∧
      PlainAscii "s1@2".toList ∧
        ∃ cause, parseSwitch "s1@2".toList = .error (.malformed cause "s1@2".toList) := by
  have hself : PlainAscii " SsA@Town : 04 ".toList :=
    .of_length_le (forall_mem_of_all (by decide)) (by decide)
  have hglobal : PlainAscii "s1@2".toList :=
    .of_length_le (forall_mem_of_all (by decide)) (by decide)
  refine ⟨hself, ((parseSwitch_iff_spelled hself).1 _).mp rfl, hglobal,
    (parseSwitch_iff_spelled hglobal).2 ?_⟩
  rintro ⟨operand, hspelled⟩
  have hok := ((parseSwitch_iff_spelled hglobal).1 operand).mpr hspelled
  cases hok

end Operand

end DialogueMarkup
