import DialogueMarkup.Condition.Parser
import DialogueMarkup.Proofs.Numerals

/-! How conditions are written. Each reader of a condition takes its numbers and addresses from the
text, and whatever is no part of an address is a blank, a letter, a digit or one of a few signs. -/
namespace DialogueMarkup
open Text

/-- A character that conditions are made of outside the names in them. -/
def isOrdinary (c : Char) : Bool :=
  isBlank c || c.isAlpha || isLatinLetter c || hasDigitValue c || "-_@:=!<>".toList.contains c

/-- Every character is ordinary or belongs to one of the names. -/
def WrittenWith (names : List (List Char)) (s : List Char) : Prop :=
  ∀ c ∈ s, isOrdinary c = true ∨ ∃ name ∈ names, c ∈ name

section
variable {c : Char}

theorem isOrdinary_of_isBlank (h : isBlank c = true) : isOrdinary c = true := by
  simp [isOrdinary, h]

theorem isOrdinary_of_isAlpha (h : c.isAlpha = true) : isOrdinary c = true := by
  simp [isOrdinary, h]

theorem isOrdinary_of_isLatinLetter (h : isLatinLetter c = true) : isOrdinary c = true := by
  simp [isOrdinary, h]

theorem isOrdinary_of_hasDigitValue (h : hasDigitValue c = true) : isOrdinary c = true := by
  simp [isOrdinary, h]

theorem isOrdinary_of_isDecimal (h : isDecimal c = true) : isOrdinary c = true :=
  isOrdinary_of_hasDigitValue (by simp [hasDigitValue, h])

theorem isOrdinary_of_isSign (h : Comparison.isSign c = true) : isOrdinary c = true := by
  simp only [Comparison.isSign, Bool.or_eq_true, beq_iff_eq] at h
  rcases h with ((rfl | rfl) | rfl) | rfl <;> decide

theorem isOrdinary_of_isLabelCharacter (h : isLabelCharacter c = true) : isOrdinary c = true := by
  simp only [isLabelCharacter, Bool.or_eq_true, beq_iff_eq] at h
  rcases h with (halpha | rfl) | rfl
  · exact isOrdinary_of_isAlpha halpha
  · decide
  · decide

/-- What holds of eight code points holds of the letters that name self switches. -/
theorem of_isSelfLetter {p : Char → Prop}
    (hp : ∀ n ∈ [65, 66, 67, 68, 97, 98, 99, 100], p (Char.ofNat n))
    (h : isSelfLetter c = true) : p c := by
  have hc : 65 ≤ c.toNat ∧ c.toNat ≤ 68 ∨ 97 ≤ c.toNat ∧ c.toNat ≤ 100 := by
    simpa [isSelfLetter, Char.le_def, UInt32.le_iff_toNat_le] using h
  have hmem : c.toNat ∈ [65, 66, 67, 68, 97, 98, 99, 100] := by
    simp only [List.mem_cons, List.not_mem_nil, or_false]
    omega
  simpa only [Char.ofNat_toNat] using hp c.toNat hmem

theorem isOrdinary_of_isSelfLetter (h : isSelfLetter c = true) : isOrdinary c = true :=
  of_isSelfLetter (p := fun c => isOrdinary c = true) (by decide) h

end

section
variable {names : List (List Char)} {s t : List Char}

theorem writtenWith_of_ordinary (h : ∀ c ∈ s, isOrdinary c = true) : WrittenWith names s :=
  fun c hc => Or.inl (h c hc)

theorem WrittenWith.append (hs : WrittenWith names s) (ht : WrittenWith names t) :
    WrittenWith names (s ++ t) :=
  fun c hc => (List.mem_append.mp hc).elim (hs c) (ht c)

theorem WrittenWith.cons {c : Char} (hc : isOrdinary c = true) (hs : WrittenWith names s) :
    WrittenWith names (c :: s) :=
  List.forall_mem_cons.mpr ⟨Or.inl hc, hs⟩

theorem WrittenWith.mono {names' : List (List Char)} (h : WrittenWith names s)
    (hsub : names ⊆ names') : WrittenWith names' s :=
  fun c hc => (h c hc).imp_right fun ⟨name, hmem, hin⟩ => ⟨name, hsub hmem, hin⟩

/-- Ordinary characters that are passed over do not count. -/
theorem WrittenWith.of_dropWhile {p : Char → Bool} (hp : ∀ c, p c = true → isOrdinary c = true)
    (h : WrittenWith names (s.dropWhile p)) : WrittenWith names s := by
  rw [← List.takeWhile_append_dropWhile (p := p) (l := s)]
  exact (writtenWith_of_ordinary fun c hc => hp c (of_mem_takeWhile p s c hc)).append h

theorem WrittenWith.of_trimLeft (h : WrittenWith names (trimLeft s)) : WrittenWith names s :=
  h.of_dropWhile fun _ => isOrdinary_of_isBlank

theorem WrittenWith.of_trim (h : WrittenWith names (trim s)) : WrittenWith names s := by
  have hreverse {u : List Char} (hu : WrittenWith names u.reverse) : WrittenWith names u :=
    fun c hc => hu c (List.mem_reverse.mpr hc)
  apply WrittenWith.of_trimLeft
  apply hreverse
  apply WrittenWith.of_trimLeft
  apply hreverse
  exact h

theorem writtenWith_of_isBlankText (h : isBlankText s = true) : WrittenWith names s :=
  writtenWith_of_ordinary fun c hc => isOrdinary_of_isBlank (List.all_eq_true.mp h c hc)

end

/-- A word is spelled with Latin letters if its own letters are. -/
theorem writtenWith_of_readWord {names : List (List Char)} {word s spelling rest : List Char}
    (hword : ∀ w ∈ word, isLatinLetter w = true) (h : readWord word s = some (spelling, rest))
    (hrest : WrittenWith names rest) : WrittenWith names s := by
  induction word generalizing s spelling with
  | nil =>
    cases h
    exact hrest
  | cons w word ih =>
    match s with
    | [] => cases h
    | c :: s =>
      simp only [readWord] at h
      split at h
      · rename_i hsame
        obtain ⟨hw, hword⟩ := List.forall_mem_cons.mp hword
        obtain ⟨⟨t, r⟩, ht, he⟩ := Option.map_eq_some_iff.mp h
        cases he
        have hc : isLatinLetter c = true := by
          have hkey : caseKey w = caseKey c := by simpa [sameLetter] using hsame
          simpa only [isLatinLetter, hkey] using hw
        exact (ih hword ht).cons (isOrdinary_of_isLatinLetter hc)
      · cases h

theorem suffix_of_readWord {word s spelling rest : List Char}
    (h : readWord word s = some (spelling, rest)) : rest <:+ s :=
  ⟨spelling, (readWord_eq_some h).1.symm⟩

/-- What an address adds to an operand is the text after an at sign. -/
theorem readAddress_eq_some {s : List Char} {address : Option (List Char)}
    (h : readAddress? s = some address) : s = [] ∧ address = none ∨
      ∃ a, s = '@' :: a ∧ address = some a := by
  unfold readAddress? at h
  split at h
  · cases h
    exact Or.inl ⟨rfl, rfl⟩
  · split at h
    · cases h
    · cases h
      exact Or.inr ⟨_, rfl, rfl⟩
  · cases h

/-- The address of an operand, as a part of the operand's text. -/
structure Addressed (token : List Char) (address : Option (List Char)) : Prop where
  inside : ∀ a, address = some a → a <:+: token
  written : ∀ names, (∀ a, address = some a → WrittenWith names a) → WrittenWith names token

theorem Addressed.of_readAddress {s : List Char} {address : Option (List Char)}
    (h : readAddress? s = some address) : Addressed s address := by
  rcases readAddress_eq_some h with ⟨rfl, rfl⟩ | ⟨a, rfl, rfl⟩
  · refine ⟨?_, ?_⟩
    · rintro _ ⟨⟩
    · intro names _ c hc
      cases hc
  · refine ⟨?_, ?_⟩
    · rintro _ ⟨⟩
      exact (List.suffix_cons '@' a).isInfix
    · intro names hnames
      exact (hnames a rfl).cons (by decide)

/-- An operand whose slot and sigil are ordinary is written with what its address is written with. -/
theorem Addressed.of_suffix {token s : List Char} {address : Option (List Char)}
    (h : Addressed s address) (hs : s <:+ token)
    (hwritten : ∀ names, WrittenWith names s → WrittenWith names token) :
    Addressed token address where
  inside a ha := (h.inside a ha).trans hs.isInfix
  written names hnames := hwritten names (h.written names hnames)

/-- Digits in a text, as the numbers they stand for. -/
def DigitsIn (text : List Char) (digits : List Nat) : Prop :=
  ∃ run, run <:+: text ∧ (∀ c ∈ run, isDecimal c = true) ∧ digits = run.filterMap decimalValue?

theorem DigitsIn.of_isInfix {s text : List Char} {digits : List Nat} (h : DigitsIn s digits)
    (hs : s <:+: text) : DigitsIn text digits :=
  let ⟨run, hrun, hdecimal, heq⟩ := h
  ⟨run, hrun.trans hs, hdecimal, heq⟩

/-- The parts of the operand of a switch. -/
structure SwitchParts (token : List Char) (slot : SwitchSlot) (address : Option (List Char)) :
    Prop where
  letter : ∀ c, slot = .letter c → isSelfLetter c = true
  digits : ∀ values, slot = .digits values → DigitsIn token values
  address : Addressed token address

section
variable {s rest token : List Char}

theorem readSwitchSigil_suffix (s : List Char) : (readSwitchSigil s).2 <:+ s ∧
    ∀ names, WrittenWith names (readSwitchSigil s).2 → WrittenWith names s := by
  have hss : ∀ w ∈ ['s', 's'], isLatinLetter w = true :=
    List.all_eq_true.mp (by decide)
  have hs : ∀ w ∈ ['s'], isLatinLetter w = true :=
    List.all_eq_true.mp (by decide)
  unfold readSwitchSigil
  split
  · rename_i hread
    exact ⟨suffix_of_readWord hread, fun _ => writtenWith_of_readWord hss hread⟩
  · split
    · rename_i hread
      exact ⟨suffix_of_readWord hread, fun _ => writtenWith_of_readWord hs hread⟩
    · exact ⟨List.suffix_refl s, fun _ h => h⟩

theorem readSwitchSlot_eq_some {slot : SwitchSlot} (h : readSwitchSlot s = some (slot, rest)) :
    rest <:+ s ∧ (∀ c, slot = .letter c → isSelfLetter c = true) ∧
      (∀ values, slot = .digits values → DigitsIn s values) ∧
      ∀ names, WrittenWith names rest → WrittenWith names s := by
  match s with
  | [] => cases h
  | d :: s =>
    simp only [readSwitchSlot] at h
    split at h
    · rename_i hletter
      cases h
      refine ⟨List.suffix_cons d _, ?_, ?_, ?_⟩
      · rintro c ⟨⟩
        exact hletter
      · rintro values ⟨⟩
      · intro names hrest
        exact hrest.cons (isOrdinary_of_isSelfLetter hletter)
    · split at h
      · cases h
      · cases h
        refine ⟨List.dropWhile_suffix _, ?_, ?_, ?_⟩
        · rintro c ⟨⟩
        · rintro values ⟨⟩
          exact ⟨_, (List.takeWhile_prefix _).isInfix,
            of_mem_takeWhile isDecimal (d :: s), rfl⟩
        · intro names hrest
          exact hrest.of_dropWhile fun _ => isOrdinary_of_isDecimal

theorem readSwitch_eq_some {sigil : Sigil} {slot : SwitchSlot} {address : Option (List Char)}
    (h : readSwitch? token = some (sigil, slot, address)) : SwitchParts token slot address := by
  simp only [readSwitch?, Option.bind_eq_bind, Option.bind_eq_some_iff, Option.pure_def,
    Option.some.injEq, Prod.mk.injEq] at h
  obtain ⟨⟨slot', s⟩, hslot, address', haddress, -, rfl, rfl⟩ := h
  obtain ⟨hsuffix, hsigil⟩ := readSwitchSigil_suffix token
  obtain ⟨hrest, hletter, hdigits, hwritten⟩ := readSwitchSlot_eq_some hslot
  refine ⟨hletter, fun values hv => (hdigits values hv).of_isInfix hsuffix.isInfix, ?_⟩
  exact (Addressed.of_readAddress haddress).of_suffix (hrest.trans hsuffix)
    fun names h => hsigil names (hwritten names h)

end

namespace Numeral

/-- A signed number is written with ordinary characters. -/
theorem writtenWith_of_readSigned {names : List (List Char)} {s rest : List Char}
    {negative : Bool} {digits : List Nat} (h : readSigned s = some ((negative, digits), rest))
    (hrest : WrittenWith names rest) : WrittenWith names s := by
  have hdigits (body : List Char) (hbody : body.dropWhile isDecimal = rest) :
      WrittenWith names body := by
    apply WrittenWith.of_dropWhile (p := isDecimal) fun _ => isOrdinary_of_isDecimal
    rw [hbody]
    exact hrest
  unfold readSigned at h
  split at h
  rename_i heq
  dsimp only at h
  split at h
  · cases h
  · cases h
    split at heq
    · cases heq
      exact (hdigits _ rfl).cons (by decide)
    · cases heq
      exact hdigits _ rfl

theorem writtenWith_of_readPlain {names : List (List Char)} {s : List Char}
    {x : Except NumeralFault Int} (h : readPlain s = some x) : WrittenWith names s := by
  unfold readPlain at h
  split at h
  · rename_i hread
    split at h
    · rename_i hblank
      exact (writtenWith_of_readSigned hread (writtenWith_of_isBlankText hblank)).of_trimLeft
    · cases h
  · cases h

end Numeral

namespace VariableToken
variable {token : List Char}

theorem readSigil_suffix (s : List Char) : (readSigil s).2 <:+ s ∧
    ∀ names, WrittenWith names (readSigil s).2 → WrittenWith names s := by
  have hsv : ∀ w ∈ ['s', 'v'], isLatinLetter w = true :=
    List.all_eq_true.mp (by decide)
  have hv : ∀ w ∈ ['v'], isLatinLetter w = true :=
    List.all_eq_true.mp (by decide)
  unfold readSigil
  split
  · rename_i hread
    exact ⟨suffix_of_readWord hread, fun _ => writtenWith_of_readWord hsv hread⟩
  · split
    · rename_i hread
      exact ⟨suffix_of_readWord hread, fun _ => writtenWith_of_readWord hv hread⟩
    · exact ⟨List.suffix_refl s, fun _ h => h⟩

theorem read_eq_some {sigil : Sigil} {negative : Bool} {digits : List Nat}
    {address : Option (List Char)} (h : read? token = some (sigil, (negative, digits), address)) :
    DigitsIn token digits ∧ Addressed token address := by
  simp only [read?, Option.bind_eq_bind, Option.bind_eq_some_iff, Option.pure_def,
    Option.some.injEq, Prod.mk.injEq] at h
  obtain ⟨⟨numeral, s⟩, hnumeral, address', haddress, -, rfl, rfl⟩ := h
  obtain ⟨hsuffix, hsigil⟩ := readSigil_suffix token
  obtain ⟨hrest, hdigits⟩ := Numeral.readSigned_eq_some hnumeral
  refine ⟨DigitsIn.of_isInfix hdigits hsuffix.isInfix, ?_⟩
  exact (Addressed.of_readAddress haddress).of_suffix (hrest.trans hsuffix)
    fun names h => hsigil names (Numeral.writtenWith_of_readSigned hnumeral h)

end VariableToken

section
variable {text s rest : List Char}

theorem Comparison.read_eq_some {op : Comparison} (h : Comparison.read s = some (op, rest)) :
    rest <:+ s ∧ ∀ names, WrittenWith names rest → WrittenWith names s := by
  obtain ⟨_, -, he⟩ := Option.map_eq_some_iff.mp h
  cases he
  exact ⟨List.dropWhile_suffix _, fun _ hrest => hrest.of_dropWhile fun _ => isOrdinary_of_isSign⟩

/-- Both sides of a comparison stand in its text, and the rest of it is ordinary. -/
theorem splitComparison_eq_some {left right : List Char} {op : Comparison}
    (h : splitComparison? text = some (left, op, right)) : left <:+: text ∧ right <:+: text ∧
      ∀ names, WrittenWith names left → WrittenWith names right → WrittenWith names text := by
  simp only [splitComparison?, Option.bind_eq_bind, Option.bind_eq_some_iff] at h
  obtain ⟨⟨op', s⟩, hop, h⟩ := h
  split at h
  · cases h
  · rename_i hends
    cases h
    simp only [Bool.or_eq_true, Bool.not_eq_true', not_or, Bool.not_eq_false] at hends
    obtain ⟨hrest, hsigns⟩ := Comparison.read_eq_some hop
    have hafter : trimLeft s <:+ text := (trimLeft_suffix s).trans (hrest.trans
      ((trimLeft_suffix _).trans ((List.dropWhile_suffix _).trans (trimLeft_suffix text))))
    refine ⟨?_, (List.takeWhile_prefix _).isInfix.trans hafter.isInfix, ?_⟩
    · exact (List.takeWhile_prefix _).isInfix.trans (trimLeft_suffix text).isInfix
    · intro names hleft hright
      have htail : WrittenWith names (trimLeft s) := by
        rw [← List.takeWhile_append_dropWhile (p := isTokenCharacter) (l := trimLeft s)]
        exact hright.append (writtenWith_of_isBlankText hends.2)
      have hmiddle := (hsigns names htail.of_trimLeft).of_trimLeft
      apply WrittenWith.of_trimLeft
      rw [← List.takeWhile_append_dropWhile (p := isTokenCharacter) (l := trimLeft text)]
      exact hleft.append hmiddle

/-- An operator and its number are ordinary, and the number is read if its digits can be. -/
theorem readBound_eq_some {op : Comparison} {n : Except NumeralFault Int}
    (h : readBound? s = some (op, n)) (hs : s <:+: text) :
    (Numeral.Legible text → ∃ k, n = .ok k) ∧ WrittenWith [] s := by
  simp only [readBound?, Option.bind_eq_bind, Option.bind_eq_some_iff, Option.pure_def,
    Option.some.injEq, Prod.mk.injEq] at h
  obtain ⟨⟨op', rest⟩, hop, n', hn, -, rfl⟩ := h
  obtain ⟨hrest, hsigns⟩ := Comparison.read_eq_some hop
  exact ⟨fun hl => hl.readPlain_eq_some (hrest.isInfix.trans hs) hn,
    hsigns _ (Numeral.writtenWith_of_readPlain hn)⟩

theorem readPartySize_eq_some {op : Comparison} {n : Except NumeralFault Int}
    (h : readPartySize? text = some (op, n)) :
    (Numeral.Legible text → ∃ k, n = .ok k) ∧ WrittenWith [] text := by
  have hsuffix : trimLeft ((text.dropWhile isBlank).dropWhile isLabelCharacter) <:+ text :=
    (trimLeft_suffix _).trans ((List.dropWhile_suffix _).trans (List.dropWhile_suffix _))
  have hwritten
      (hw : WrittenWith [] (trimLeft ((text.dropWhile isBlank).dropWhile isLabelCharacter))) :
      WrittenWith [] text :=
    (hw.of_trimLeft.of_dropWhile fun _ => isOrdinary_of_isLabelCharacter).of_trimLeft
  simp only [readPartySize?] at h
  split at h
  · cases h
  · split at h
    · obtain ⟨hread, hs⟩ := readBound_eq_some h hsuffix.isInfix
      exact ⟨hread, hwritten hs⟩
    · obtain ⟨n', hn, he⟩ := Option.map_eq_some_iff.mp h
      cases he
      exact ⟨fun hl => hl.readPlain_eq_some hsuffix.isInfix hn,
        hwritten (Numeral.writtenWith_of_readPlain hn)⟩

theorem readMember_eq_some {word : List Char} {op : Comparison} {n : Except NumeralFault Int}
    (h : readMember? text = some (word, op, n)) :
    (Numeral.Legible text → ∃ k, n = .ok k) ∧ WrittenWith [] text := by
  simp only [readMember?] at h
  split at h
  · cases h
  · simp only [Option.bind_eq_bind, Option.bind_eq_some_iff, Option.pure_def, Option.some.injEq,
      Prod.mk.injEq] at h
    obtain ⟨⟨op', n'⟩, hbound, -, -, rfl⟩ := h
    have hsuffix : trimLeft ((trimLeft text).dropWhile Char.isAlpha) <:+ text :=
      (trimLeft_suffix _).trans ((List.dropWhile_suffix _).trans (trimLeft_suffix text))
    obtain ⟨hread, hs⟩ := readBound_eq_some hbound hsuffix.isInfix
    exact ⟨hread, (hs.of_trimLeft.of_dropWhile fun _ => isOrdinary_of_isAlpha).of_trimLeft⟩

end

end DialogueMarkup
