import DialogueMarkup.Proofs.ComparisonSymmetry
import DialogueMarkup.Proofs.Decimals
import DialogueMarkup.Proofs.SwitchGrammar

/-! The ways to address a self slot. An id may be stated by its digits or by a name of it, and what
is left out of an address is that of the current scope; what is said of the slot hangs on the scope
alone. No name stands for a negative id, and no digits do: the current scope cannot always be
stated. -/
namespace DialogueMarkup
open Text Markup Numeral

/-- What can be told from an id and from the rest of an address: a name without colons, blanks and
operators, not made of digits. -/
structure IsPlaceName (s : List Char) : Prop where
  ne_nil : s ≠ []
  not_digits : isDigits s = false
  not_colon : ':' ∉ s
  token : ∀ c ∈ s, isTokenCharacter c = true

/-- How an id is stated: by its digits, if they are not too many, or by a name. -/
inductive Place.Names (names : Table (List Char) Int) : List Char → Int → Prop
  | id {n : Nat} (hshort : (writeNat n).length ≤ maxDigits) : Names names (writeNat n) n
  | name {s : List Char} {n : Int} (hs : IsPlaceName s) (hn : names.get? s = some n) :
      Names names s n

/-- What is stated behind a slot, and the scope that it means. -/
inductive Addresses (st : State) (current : Scope) : List Char → Scope → Prop
  | here : Addresses st current [] current
  | context {b : List Char} {x : Int} (hb : Place.Names st.contexts b x) :
      Addresses st current ('@' :: b) ⟨current.container, some x⟩
  | container {a : List Char} {c : Int} (ha : Place.Names st.containers a c) :
      Addresses st current ('@' :: (a ++ [':'])) ⟨c, current.context⟩
  | both {a b : List Char} {c x : Int} (ha : Place.Names st.containers a c)
      (hb : Place.Names st.contexts b x) : Addresses st current ('@' :: (a ++ ':' :: b)) ⟨c, some x⟩

/-- The letter of a kind in the sigils of its slots. -/
def Kind.letter : Kind → Char
  | .switch => 's'
  | .variable => 'v'

/-- A self slot as it is written up to its address: the letter of a switch, or a number behind the
sigil of its kind. -/
inductive Slot.Spelled : Kind → Slot → List Char → Prop
  | letter {sigil : Sigil} {spelling : List Char} {c : Char} (hsigil : sigil.Spelled 's' spelling)
      (hc : isSelfLetter c = true) : Spelled .switch (.name [c.toUpper]) (spelling ++ [c])
  | number {kind : Kind} {spelling row : List Char}
      (hsigil : Sigil.self.Spelled kind.letter spelling) (hne : row ≠ [])
      (hdecimal : ∀ c ∈ row, isDecimal c = true) (hshort : row.length ≤ maxDigits) :
      Spelled kind (.number (value (row.filterMap decimalValue?))) (spelling ++ row)

/-- A condition on a self slot, open where the address of the slot stands: on a switch, or a
comparison of a variable on either side with a number. -/
inductive SlotCondition : Opcode → (List Char → List Char) → Prop
  | switch {opcode : Opcode} {before token after : List Char} {slot : Slot}
      (hopcode : opcode = .on ∨ opcode = .off) (hslot : slot.Spelled .switch token)
      (hbefore : ∀ c ∈ before, isBlank c = true) (hafter : ∀ c ∈ after, isBlank c = true) :
      SlotCondition opcode fun address => before ++ (token ++ address ++ after)
  | left {l : ComparisonLayout} {slot : Slot} (hslot : slot.Spelled .variable l.left)
      (hnumber : IsBareNumber l.right) :
      SlotCondition .ov fun address => l.start ++ (l.left ++ address ++ (l.behindLeft ++
        (l.spelling ++ (l.behindOp ++ (l.right ++ l.behindRight)))))
  | right {l : ComparisonLayout} {slot : Slot} (hslot : slot.Spelled .variable l.right)
      (hnumber : IsBareNumber l.left) :
      SlotCondition .ov fun address => l.start ++ (l.left ++ (l.behindLeft ++
        (l.spelling ++ (l.behindOp ++ (l.right ++ address ++ l.behindRight)))))

/-! Ids and addresses are read as what they mean. -/

namespace Place.Names
variable {names : Table (List Char) Int} {s : List Char} {n : Int}

theorem ne_nil (h : Names names s n) : s ≠ [] := by
  cases h with
  | id _ => exact Nat.toDigits_ne_nil
  | name hs _ => exact hs.ne_nil

theorem not_colon (h : Names names s n) : ':' ∉ s := by
  cases h with
  | id _ => exact fun hmem => absurd (isDigit_of_mem_writeNat hmem) (by decide)
  | name hs _ => exact hs.not_colon

theorem token (h : Names names s n) : ∀ c ∈ s, isTokenCharacter c = true := by
  cases h with
  | id _ =>
    intro c hc
    have hdecimal := isDecimal_of_mem_writeNat hc
    simp [isTokenCharacter, isBlank_of_isDecimal hdecimal, isSign_of_isDecimal hdecimal]
  | name hs _ => exact hs.token

/-- An id is read from its digits, a name stands for its id. -/
theorem exists_parse (h : Names names s n) : ∃ p, Place.parse s = .ok (some p) ∧
    ∀ kind ref, p.resolve names kind ref = .ok n := by
  have htrim : trim s = s :=
    trim_of_not_blank fun c hc => (apart_of_isTokenCharacter (h.token c hc)).1
  have hne : (trim s).isEmpty = false := by simpa [htrim] using h.ne_nil
  cases h with
  | @id n hshort =>
    have hnonempty : writeNat n ≠ [] := Nat.toDigits_ne_nil
    have hdecimal : ∀ c ∈ writeNat n, isDecimal c = true := fun c => isDecimal_of_mem_writeNat
    have hdigits : isDigits (writeNat n) = true := by
      have hall : (writeNat n).all hasDigitValue = true :=
        List.all_eq_true.mpr fun c hc => by simp [hasDigitValue, hdecimal c hc]
      simp [isDigits, hall, hnonempty]
    refine ⟨.id n, ?_, fun kind ref => rfl⟩
    rw [parse, hne, htrim, hdigits, read_of_isDecimal hnonempty hdecimal hshort, value_writeNat]
    rfl
  | name hs hn =>
    refine ⟨.name s, ?_, fun kind ref => by rw [resolve, hn]⟩
    rw [parse, hne, htrim, hs.not_digits]
    rfl

end Place.Names

namespace Addresses
variable {st : State} {current scope : Scope} {suffix : List Char}

theorem token (h : Addresses st current suffix scope) :
    ∀ c ∈ suffix, isTokenCharacter c = true := by
  have hat : isTokenCharacter '@' = true := by decide
  have hcolon : isTokenCharacter ':' = true := by decide
  cases h with
  | here => simp
  | context hb => exact List.forall_mem_cons.mpr ⟨hat, hb.token⟩
  | container ha =>
    refine List.forall_mem_cons.mpr ⟨hat, List.forall_mem_append.mpr ⟨ha.token, ?_⟩⟩
    simp [hcolon]
  | both ha hb =>
    refine List.forall_mem_cons.mpr ⟨hat, List.forall_mem_append.mpr ⟨ha.token, ?_⟩⟩
    exact List.forall_mem_cons.mpr ⟨hcolon, hb.token⟩

/-- What is stated behind an at sign is split off. -/
theorem readAddress?_at {a : List Char} (hne : a ≠ [])
    (h : ∀ c ∈ '@' :: a, isTokenCharacter c = true) : readAddress? ('@' :: a) = some (some a) := by
  refine readAddress?_eq_some_iff.mpr (Or.inr ⟨a, rfl, rfl, hne, fun hmem => ?_⟩)
  exact absurd (h '\n' (List.mem_cons_of_mem _ hmem)) (by decide)

/-- An address is read as places, and they lead to the scope that it means. -/
theorem exists_places (h : Addresses st current suffix scope) (hcross : st.crossContext = true) :
    ∃ address p q, readAddress? suffix = some address ∧
      (∀ fragment, parseAddress address fragment = .ok (p, q)) ∧
      ∀ kind slot text, SelfRef.scope ⟨kind, slot, p, q, text⟩ st current = .ok scope := by
  have htoken := h.token
  cases h with
  | here =>
    refine ⟨none, none, none, rfl, fun fragment => rfl, fun kind slot text => ?_⟩
    simp only [SelfRef.scope, hcross, Bool.not_true, Bool.and_false]
    rfl
  | @context b x hb =>
    obtain ⟨q, hq, hresolve⟩ := hb.exists_parse
    refine ⟨some b, none, some q, readAddress?_at hb.ne_nil htoken, fun fragment => ?_,
      fun kind slot text => ?_⟩
    · rw [parseAddress_context fragment hb.not_colon, hq]
      rfl
    · simp only [SelfRef.scope, hcross, Bool.not_true, Bool.and_false, hresolve]
      rfl
  | @container a c ha =>
    obtain ⟨p, hp, hresolve⟩ := ha.exists_parse
    refine ⟨some (a ++ [':']), some p, none, readAddress?_at (by simp) htoken, fun fragment => ?_,
      fun kind slot text => ?_⟩
    · rw [parseAddress_both fragment ha.not_colon (by simp), hp]
      rfl
    · simp only [SelfRef.scope, hcross, Bool.not_true, Bool.and_false, hresolve]
      rfl
  | @both a b c x ha hb =>
    obtain ⟨p, hp, hcontainer⟩ := ha.exists_parse
    obtain ⟨q, hq, hcontext⟩ := hb.exists_parse
    refine ⟨some (a ++ ':' :: b), some p, some q, readAddress?_at (by simp) htoken,
      fun fragment => ?_, fun kind slot text => ?_⟩
    · rw [parseAddress_both fragment ha.not_colon hb.not_colon, hp, hq]
      rfl
    · simp only [SelfRef.scope, hcross, Bool.not_true, Bool.and_false, hcontainer, hcontext]
      rfl

end Addresses

/-! The slots. -/

theorem not_sameLetter_of_isDecimal {w c : Char} (hw : isDecimal (caseKey w) = false)
    (hc : isDecimal c = true) : sameLetter w c = false := by
  rw [sameLetter, caseKey_of_isDecimal hc, beq_eq_false_iff_ne]
  rintro rfl
  rw [hw] at hc
  cases hc

theorem Kind.letter_eq (kind : Kind) : kind.letter = 's' ∨ kind.letter = 'v' := by
  cases kind with
  | switch => exact Or.inl rfl
  | «variable» => exact Or.inr rfl

/-- No digit goes on with the letters of a sigil. -/
theorem not_sameLetter_sigil (kind : Kind) {c : Char} (hc : isDecimal c = true) :
    sameLetter 's' c = false ∧ sameLetter kind.letter c = false := by
  have hs : sameLetter 's' c = false := not_sameLetter_of_isDecimal (by decide) hc
  have hv : sameLetter 'v' c = false := not_sameLetter_of_isDecimal (by decide) hc
  rcases kind.letter_eq with h | h
  · exact ⟨hs, h ▸ hs⟩
  · exact ⟨hs, h ▸ hv⟩

theorem Sigil.Spelled.token {own : Char} (hown : own = 's' ∨ own = 'v') {sigil : Sigil}
    {spelling : List Char} (h : sigil.Spelled own spelling) :
    ∀ c ∈ spelling, isTokenCharacter c = true := by
  have hsmall : ∀ n ∈ List.range 128, (Char.ofNat n).toLower ∈ ['s', 'v'] →
      isTokenCharacter (Char.ofNat n) = true := forall_mem_of_all (by decide)
  intro c hc
  have hmem : c.toLower ∈ ['s', own] := by
    have hletter : c.toLower ∈ sigil.letters own := h ▸ List.mem_map_of_mem hc
    cases sigil with
    | bare => cases hletter
    | global => exact List.mem_cons_of_mem _ hletter
    | self => exact hletter
  exact of_ascii (p := fun c => c.toLower ∈ ['s', 'v'] → isTokenCharacter c = true)
    (sameLetter_of_toLower hown hmem rfl).1 hsmall ((mem_letters hown).1 _ hmem)

theorem isTokenCharacter_of_isSelfLetter {c : Char} (h : isSelfLetter c = true) :
    isTokenCharacter c = true := by
  have hsmall : ∀ n ∈ List.range 128, isSelfLetter (Char.ofNat n) = true →
      isTokenCharacter (Char.ofNat n) = true := forall_mem_of_all (by decide)
  exact of_ascii (p := fun c => isSelfLetter c = true → isTokenCharacter c = true)
    (toNat_lt_of_isSelfLetter h) hsmall h

namespace Slot.Spelled
variable {kind : Kind} {slot : Slot} {t suffix : List Char} {address : Option (List Char)}
  {p q : Option Place}

theorem ne_nil (h : Slot.Spelled kind slot t) : t ≠ [] := by
  cases h with
  | letter _ _ => simp
  | number _ hne _ _ => simp [hne]

theorem token (h : Slot.Spelled kind slot t) : ∀ c ∈ t, isTokenCharacter c = true := by
  cases h with
  | letter hsigil hc =>
    refine List.forall_mem_append.mpr ⟨hsigil.token (Or.inl rfl), ?_⟩
    simp [isTokenCharacter_of_isSelfLetter hc]
  | number hsigil _ hdecimal _ =>
    refine List.forall_mem_append.mpr ⟨hsigil.token kind.letter_eq, fun c hc => ?_⟩
    have hc := hdecimal c hc
    simp [isTokenCharacter, isBlank_of_isDecimal hc, isSign_of_isDecimal hc]

section
variable (haddress : readAddress? suffix = some address)
  (hplaces : ∀ fragment, parseAddress address fragment = .ok (p, q))
include haddress hplaces

/-- A self switch is read with its address. -/
theorem parse_switch (h : Slot.Spelled .switch slot t) {text : List Char}
    (htrim : trim text = t ++ suffix) :
    Operand.parseSwitch text = .ok (.self ⟨.switch, slot, p, q, t ++ suffix⟩) := by
  cases h with
  | @letter sigil spelling c hsigil hc =>
    obtain ⟨hs, -, -⟩ := apart_of_isSelfLetter hc
    have hsame : sameLetter 's' c = false := by
      simp [sameLetter_of_ascii (toNat_lt_of_isSelfLetter hc), hs]
    have hslot : readSwitchSlot ([c] ++ suffix) = some (.letter c, suffix) := by
      simp [readSwitchSlot, hc]
    have hread : readSwitch? (spelling ++ [c] ++ suffix) = some (sigil, .letter c, address) :=
      readPartsOf_append (Or.inl rfl) hsigil (by simp [hsame]) hslot haddress
    simp only [Operand.parseSwitch, htrim, hread, hplaces]
    rfl
  | @number _ spelling row hsigil hne hdecimal hshort =>
    have hhead := head?_append_of_ne_nil hne
      (fun c hc => not_sameLetter_sigil .switch (hdecimal c hc)) suffix
    have hslot := readSwitchSlot_digits hne hdecimal (head?_of_readAddress haddress)
    have hread : readSwitch? (spelling ++ row ++ suffix) =
        some (.self, .digits (row.filterMap decimalValue?), address) :=
      readPartsOf_append (Or.inl rfl) hsigil hhead hslot haddress
    simp only [Operand.parseSwitch, htrim, hread, hplaces, ofDigits_row false hshort]
    rfl

/-- A self variable is read with its address. -/
theorem parse_variable (h : Slot.Spelled .variable slot t) (fragment : List Char) :
    ∃ n, VariableToken.parse (t ++ suffix) fragment = .ok ⟨.self, n, address, t ++ suffix⟩ ∧
      VariableToken.operand ⟨.self, n, address, t ++ suffix⟩ fragment =
        .ok (.self ⟨.variable, slot, p, q, t ++ suffix⟩) := by
  cases h with
  | @number _ spelling row hsigil hne hdecimal hshort =>
    have hhead := head?_append_of_ne_nil hne
      (fun c hc => not_sameLetter_sigil .variable (hdecimal c hc)) suffix
    have hslot := readSigned_append false hne hdecimal (head?_of_readAddress haddress)
    have hread : VariableToken.read? (spelling ++ row ++ suffix) =
        some (.self, (false, row.filterMap decimalValue?), address) :=
      readPartsOf_append (Or.inr rfl) hsigil hhead hslot haddress
    refine ⟨value (row.filterMap decimalValue?), ?_, ?_⟩
    · simp only [VariableToken.parse, hread, ofDigits_row false hshort, bne_self_eq_false,
        Bool.and_false]
      rfl
    · rw [VariableToken.operand, if_neg (Int.not_lt.mpr (Int.natCast_nonneg _))]
      simp only [hplaces]
      rfl

end

end Slot.Spelled

/-! Conditions on slots. -/

/-- A number is read as a number, whatever complaints quote; it may be too long. -/
theorem IsBareNumber.exists_parse {s : List Char} (h : IsBareNumber s) :
    ∃ x : Except Fault Int, ∀ fragment,
      VariableToken.parse s fragment = x.map fun n => ⟨.bare, n, none, s⟩ := by
  obtain ⟨negative, row, rfl, hne, hdecimal⟩ := h
  refine ⟨(Numeral.ofDigits negative (row.filterMap decimalValue?)).mapError .numeral,
    fun fragment => ?_⟩
  have hhead : ∀ c ∈ (signOf negative ++ row ++ []).head?,
      sameLetter 's' c = false ∧ sameLetter 'v' c = false := by
    rw [List.append_nil]
    apply head?_append
    · intro c hc
      cases negative with
      | false => cases hc
      | true =>
        obtain rfl : c = '-' := by simpa [signOf] using hc
        exact ⟨by decide, by decide⟩
    · exact fun c hc =>
        not_sameLetter_sigil .variable (hdecimal c (List.mem_of_mem_head? hc))
  have hslot : readSigned (signOf negative ++ row ++ []) =
      some ((negative, row.filterMap decimalValue?), []) := by
    rw [List.append_assoc]
    exact readSigned_append negative hne hdecimal (by simp)
  have hread : VariableToken.read? ([] ++ (signOf negative ++ row) ++ []) =
      some (.bare, (negative, row.filterMap decimalValue?), none) :=
    readPartsOf_append (Or.inr rfl) (show Sigil.bare.Spelled 'v' [] from rfl) hhead hslot rfl
  rw [List.nil_append, List.append_nil] at hread
  simp only [VariableToken.parse, hread]
  cases Numeral.ofDigits negative (row.filterMap decimalValue?) <;> rfl

namespace ComparisonLayout
open Condition
variable (l : ComparisonLayout) (st : State) (current : Scope) {name : List Char}
  {t : VariableToken} {a : Operand} {x : Except Fault Int}

/-- A variable on the left of a number is compared with it. -/
theorem evaluate_left (hname : Opcode.ofName? name = some .ov)
    (hleft : VariableToken.parse l.left l.text = .ok t) (hsigil : t.sigil ≠ .bare)
    (hoperand : t.operand l.text = .ok a)
    (hright : VariableToken.parse l.right l.text = x.map fun n => ⟨.bare, n, none, l.right⟩) :
    evaluate st current name l.text = (do
      let n ← x
      let m ← a.value st current
      return l.op.holds m n) := by
  rw [l.evaluate_text st current hname, hleft, hright]
  cases x with
  | error e => rfl
  | ok n =>
    simp only [bind, Except.bind, Except.map, if_true, hsigil, false_and, if_false, hoperand]
    rfl

/-- A number on the left of a variable is compared with that. -/
theorem evaluate_right (hname : Opcode.ofName? name = some .ov)
    (hleft : VariableToken.parse l.left l.text = x.map fun n => ⟨.bare, n, none, l.left⟩)
    (hright : VariableToken.parse l.right l.text = .ok t) (hsigil : t.sigil ≠ .bare)
    (hoperand : t.operand l.text = .ok a) :
    evaluate st current name l.text = (do
      let n ← x
      let m ← a.value st current
      return l.op.holds n m) := by
  rw [l.evaluate_text st current hname, hleft, hright]
  cases x with
  | error e => rfl
  | ok n =>
    simp only [bind, Except.bind, Except.map, hsigil, if_false, ne_eq, not_false_eq_true, and_self,
      if_true, hoperand]
    rfl

end ComparisonLayout

namespace Addresses
open Condition
variable {opcode : Opcode} {name : List Char} {st : State} {current scope : Scope}
  {suffix : List Char} {slot : Slot}

section
variable (ha : Addresses st current suffix scope) (hcross : st.crossContext = true)
include ha hcross

/-- A condition on a self switch asks whether it is on in the scope of the address. -/
theorem evaluate_switch (hname : Opcode.ofName? name = some opcode)
    (hopcode : opcode = .on ∨ opcode = .off) {before t after : List Char}
    (hslot : slot.Spelled .switch t) (hbefore : ∀ c ∈ before, isBlank c = true)
    (hafter : ∀ c ∈ after, isBlank c = true) :
    evaluate st current name (before ++ (t ++ suffix ++ after)) = (do
      let n ← Kind.read .switch st (some scope) slot
      return (n != 0) != decide (opcode = .off)) := by
  obtain ⟨address, p, q, haddress, hplaces, hscope⟩ := ha.exists_places hcross
  have hcore : ∀ c ∈ t ++ suffix, isBlank c = false :=
    List.forall_mem_append.mpr ⟨fun c hc => (apart_of_isTokenCharacter (hslot.token c hc)).1,
      fun c hc => (apart_of_isTokenCharacter (ha.token c hc)).1⟩
  have htrim := trim_append_blank hbefore hcore hafter
  have hblank : isBlankText (before ++ (t ++ suffix ++ after)) = false := by
    obtain ⟨d, behind, rfl⟩ := List.exists_cons_of_ne_nil hslot.ne_nil
    rw [isBlankText, List.all_eq_false]
    exact ⟨d, by simp, by simp [hcore d (by simp)]⟩
  have hoperand := hslot.parse_switch haddress hplaces htrim
  have hparse : Condition.parse opcode (before ++ (t ++ suffix ++ after)) =
      .ok (.switch (.self ⟨.switch, slot, p, q, t ++ suffix⟩) (opcode = .off)) := by
    rcases hopcode with rfl | rfl
    all_goals
      simp only [Condition.parse, hblank, hoperand]
      rfl
  rw [evaluate_of_name hname, hparse]
  simp only [bind, Except.bind, holds, Operand.value, hscope]

variable {x : Except Fault Int} (hname : Opcode.ofName? name = some .ov) (l : ComparisonLayout)
include hname

/-- A self variable on the left is compared as it is in the scope of the address. -/
theorem evaluate_left (hslot : slot.Spelled .variable l.left)
    (hx : ∀ fragment, VariableToken.parse l.right fragment =
      x.map fun n => ⟨.bare, n, none, l.right⟩) :
    evaluate st current name (l.start ++ (l.left ++ suffix ++ (l.behindLeft ++
      (l.spelling ++ (l.behindOp ++ (l.right ++ l.behindRight)))))) = (do
        let n ← x
        let m ← Kind.read .variable st (some scope) slot
        return l.op.holds m n) := by
  obtain ⟨address, p, q, haddress, hplaces, hscope⟩ := ha.exists_places hcross
  -- an address may stand in the left token, since it holds no blank and no operator
  let l' : ComparisonLayout := { l with
    left := l.left ++ suffix
    left_ne_nil := by simp [l.left_ne_nil]
    token_left := List.forall_mem_append.mpr ⟨l.token_left, ha.token⟩ }
  obtain ⟨n, hparse, hoperand⟩ := hslot.parse_variable haddress hplaces l'.text
  have hevaluate := l'.evaluate_left st current hname hparse (by simp) hoperand (hx l'.text)
  simp only [Operand.value, hscope] at hevaluate
  exact hevaluate

/-- So is one on the right. -/
theorem evaluate_right (hslot : slot.Spelled .variable l.right)
    (hx : ∀ fragment, VariableToken.parse l.left fragment =
      x.map fun n => ⟨.bare, n, none, l.left⟩) :
    evaluate st current name (l.start ++ (l.left ++ (l.behindLeft ++
      (l.spelling ++ (l.behindOp ++ (l.right ++ suffix ++ l.behindRight)))))) = (do
        let n ← x
        let m ← Kind.read .variable st (some scope) slot
        return l.op.holds n m) := by
  obtain ⟨address, p, q, haddress, hplaces, hscope⟩ := ha.exists_places hcross
  let l' : ComparisonLayout := { l with
    right := l.right ++ suffix
    right_ne_nil := by simp [l.right_ne_nil]
    token_right := List.forall_mem_append.mpr ⟨l.token_right, ha.token⟩ }
  obtain ⟨n, hparse, hoperand⟩ := hslot.parse_variable haddress hplaces l'.text
  have hevaluate := l'.evaluate_right st current hname (hx l'.text) hparse (by simp) hoperand
  simp only [Operand.value, hscope] at hevaluate
  exact hevaluate

end

end Addresses

/-- A condition on a self slot says something of the scope that the address means, and nothing else
of the address. -/
theorem SlotCondition.exists_verdict {opcode : Opcode} {fill : List Char → List Char}
    (h : SlotCondition opcode fill) {name : List Char} (hname : Opcode.ofName? name = some opcode)
    {st : State} (current : Scope) (hcross : st.crossContext = true) :
    ∃ verdict : Scope → Except Fault Bool, ∀ suffix scope, Addresses st current suffix scope →
      Condition.evaluate st current name (fill suffix) = verdict scope := by
  cases h with
  | switch hopcode hslot hbefore hafter =>
    exact ⟨_, fun suffix scope ha =>
      ha.evaluate_switch hcross hname hopcode hslot hbefore hafter⟩
  | @left l _ hslot hnumber =>
    obtain ⟨x, hx⟩ := hnumber.exists_parse
    exact ⟨_, fun suffix scope ha => ha.evaluate_left hcross hname l hslot hx⟩
  | @right l _ hslot hnumber =>
    obtain ⟨x, hx⟩ := hnumber.exists_parse
    exact ⟨_, fun suffix scope ha => ha.evaluate_right hcross hname l hslot hx⟩

namespace Condition
variable {opcode : Opcode} {name : List Char} {fill : List Char → List Char} {st : State}
  {current : Scope} {town guard : List Char} {c x : Nat}

/-- A condition on a self slot is decided alike under all addresses of the slot: a container and a
context go by their names or by their ids, and so does what is left out of an address, where the
current scope has an id of digits there. -/
theorem evaluate_same_slot (hfill : SlotCondition opcode fill)
    (hname : Opcode.ofName? name = some opcode) (hcross : st.crossContext = true)
    (htown : IsPlaceName town) (hc : st.containers.get? town = some (c : Int))
    (hcshort : (writeNat c).length ≤ maxDigits) (hguard : IsPlaceName guard)
    (hx : st.contexts.get? guard = some (x : Int)) (hxshort : (writeNat x).length ≤ maxDigits) :
    (∀ a ∈ [town, writeNat c], ∀ b ∈ [guard, writeNat x],
      evaluate st current name (fill ('@' :: (a ++ ':' :: b))) =
        evaluate st current name (fill ('@' :: (writeNat c ++ ':' :: writeNat x)))) ∧
    evaluate st current name (fill ('@' :: guard)) =
      evaluate st current name (fill ('@' :: writeNat x)) ∧
    evaluate st current name (fill ('@' :: (town ++ [':']))) =
      evaluate st current name (fill ('@' :: (writeNat c ++ [':']))) ∧
    (∀ c₀ : Nat, current.container = c₀ → (writeNat c₀).length ≤ maxDigits →
      evaluate st current name (fill ('@' :: writeNat x)) =
        evaluate st current name (fill ('@' :: (writeNat c₀ ++ ':' :: writeNat x)))) ∧
    (∀ x₀ : Nat, current.context = some (x₀ : Int) → (writeNat x₀).length ≤ maxDigits →
      evaluate st current name (fill ('@' :: (writeNat c ++ [':']))) =
        evaluate st current name (fill ('@' :: (writeNat c ++ ':' :: writeNat x₀)))) ∧
    (∀ c₀ x₀ : Nat, current = ⟨c₀, some x₀⟩ → (writeNat c₀).length ≤ maxDigits →
      (writeNat x₀).length ≤ maxDigits →
      evaluate st current name (fill []) =
        evaluate st current name (fill ('@' :: (writeNat c₀ ++ ':' :: writeNat x₀)))) := by
  obtain ⟨verdict, hverdict⟩ := hfill.exists_verdict hname current hcross
  -- the verdict is told by the scope alone, so two addresses of one scope are alike
  have hsame {s t : List Char} {scope : Scope} (hs : Addresses st current s scope)
      (ht : Addresses st current t scope) :
      evaluate st current name (fill s) = evaluate st current name (fill t) :=
    (hverdict s scope hs).trans (hverdict t scope ht).symm
  have hid {names : Table (List Char) Int} {n : Nat} (hn : (writeNat n).length ≤ maxDigits) :
      Place.Names names (writeNat n) n := .id hn
  have hcontainer : ∀ a ∈ [town, writeNat c], Place.Names st.containers a c :=
    List.forall_mem_cons.mpr ⟨.name htown hc, List.forall_mem_singleton.mpr (hid hcshort)⟩
  have hcontext : ∀ b ∈ [guard, writeNat x], Place.Names st.contexts b x :=
    List.forall_mem_cons.mpr ⟨.name hguard hx, List.forall_mem_singleton.mpr (hid hxshort)⟩
  refine ⟨?_, ?_, ?_, ?_, ?_, ?_⟩
  · intro a ha b hb
    exact hsame (.both (hcontainer a ha) (hcontext b hb)) (.both (hid hcshort) (hid hxshort))
  · exact hsame (.context (.name hguard hx)) (.context (hid hxshort))
  · exact hsame (.container (.name htown hc)) (.container (hid hcshort))
  · intro c₀ hcurrent hshort
    have hhere : Addresses st current ('@' :: writeNat x) ⟨current.container, some x⟩ :=
      .context (hid hxshort)
    rw [hcurrent] at hhere
    exact hsame hhere (.both (hid hshort) (hid hxshort))
  · intro x₀ hcurrent hshort
    have hhere : Addresses st current ('@' :: (writeNat c ++ [':'])) ⟨c, current.context⟩ :=
      .container (hid hcshort)
    rw [hcurrent] at hhere
    exact hsame hhere (.both (hid hcshort) (hid hshort))
  · rintro c₀ x₀ rfl hshort hshort'
    exact hsame .here (.both (hid hshort) (hid hshort'))

theorem evaluate_same_slot_switch :
    let st : State := {
      selfSwitches := [((⟨3, some 5⟩, .number 7), true), ((⟨2, some 5⟩, .number 7), true)]
      containers := [("Town".toList, 3)]
      contexts := [("Guard²".toList, 5)] }
    SlotCondition .off (fun address => " ".toList ++ ("sS٧".toList ++ address ++ [])) ∧
      Opcode.ofName? "off".toList = some .off ∧ IsPlaceName "Town".toList ∧
      IsPlaceName "Guard²".toList ∧ (writeNat 3).length ≤ maxDigits ∧
      (writeNat 5).length ≤ maxDigits ∧
      evaluate st ⟨2, some 4⟩ "off".toList " sS٧@Town:Guard²".toList = .ok false ∧
      evaluate st ⟨2, some 4⟩ "off".toList " sS٧@Guard²".toList = .ok false ∧
      evaluate st ⟨2, some 4⟩ "off".toList " sS٧@Town:".toList = .ok true ∧
      evaluate st ⟨2, some 4⟩ "off".toList " sS٧".toList = .ok true := by
  intro st
  have hsigil : Sigil.self.Spelled Kind.switch.letter "sS".toList := rfl
  have hrow : ∀ c ∈ "٧".toList, isDecimal c = true := forall_mem_of_all (by decide)
  have hslot : Slot.Spelled .switch (.number 7) "sS٧".toList :=
    .number hsigil (by decide) hrow (by decide)
  have hfill : SlotCondition .off (fun address => " ".toList ++ ("sS٧".toList ++ address ++ [])) :=
    .switch (Or.inr rfl) hslot (forall_mem_of_all (by decide)) (by simp)
  have hname : Opcode.ofName? "off".toList = some .off := rfl
  have htown : IsPlaceName "Town".toList :=
    ⟨by decide, by decide, by decide, forall_mem_of_all (by decide)⟩
  have hguard : IsPlaceName "Guard²".toList :=
    ⟨by decide, by decide, by decide, forall_mem_of_all (by decide)⟩
  have hthree : (writeNat 3).length ≤ maxDigits := by decide
  have hfive : (writeNat 5).length ≤ maxDigits := by decide
  obtain ⟨hboth, hguarded, htowned, hcontext, hcontainer, hhere⟩ :=
    @evaluate_same_slot _ _ _ st ⟨2, some 4⟩ _ _ 3 5 hfill hname rfl htown rfl hthree hguard rfl
      hfive
  refine ⟨hfill, hname, htown, hguard, hthree, hfive, ?_, ?_, ?_, ?_⟩
  · exact (hboth "Town".toList (by simp) "Guard²".toList (by simp)).trans rfl
  · exact (hguarded.trans (hcontext 2 rfl (by decide))).trans rfl
  · exact (htowned.trans (hcontainer 4 rfl (by decide))).trans rfl
  · exact (hhere 2 4 rfl (by decide) (by decide)).trans rfl

/-- Without an address the scope may be one that no address states: `-1` is taken for a name. -/
theorem evaluate_negative_container :
    let st : State := {
      selfSwitches := [((⟨-1, some 5⟩, .name ['A']), true)]
      containers := [("Town".toList, 3)]
      contexts := [("Guard".toList, 5)] }
    evaluate st ⟨-1, some 2⟩ "ON".toList "A@5".toList = .ok true ∧
      evaluate st ⟨-1, some 2⟩ "ON".toList ("A@".toList ++ (Numeral.write (-1) ++ ":5".toList)) =
        .error (.unresolved .container "-1".toList "A@-1:5".toList) :=
  ⟨rfl, rfl⟩

end Condition

end DialogueMarkup
