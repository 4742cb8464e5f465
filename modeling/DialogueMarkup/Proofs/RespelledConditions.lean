import DialogueMarkup.Condition.Parser
import DialogueMarkup.Proofs.Renaming

/-! Conditions with their signs renamed. The grammars of conditions have no use for signs, so a
renamed condition is read as the same condition, with the names in its addresses and the texts that
stand in complaints renamed. -/
namespace DialogueMarkup
open Text

/-! What is read, renamed: the names and the texts in it. -/

def Place.renamed (φ : Char → Char) : Place → Place
  | id n => id n
  | name s => name (s.map φ)

def SelfRef.renamed (φ : Char → Char) (r : SelfRef) : SelfRef :=
  { r with
    container := r.container.map (Place.renamed φ)
    context := r.context.map (Place.renamed φ)
    text := r.text.map φ }

def Operand.renamed (φ : Char → Char) : Operand → Operand
  | constant n => constant n
  | global kind n => global kind n
  | self ref => self (ref.renamed φ)

def VariableToken.renamed (φ : Char → Char) (t : VariableToken) : VariableToken :=
  { t with address := t.address.map (List.map φ), text := t.text.map φ }

@[simp]
theorem VariableToken.renamed_number (φ : Char → Char) (t : VariableToken) :
    (t.renamed φ).number = t.number := rfl

@[simp]
theorem VariableToken.renamed_sigil (φ : Char → Char) (t : VariableToken) :
    (t.renamed φ).sigil = t.sigil := rfl

def Condition.renamed (φ : Char → Char) : Condition → Condition
  | switch operand negated => switch (operand.renamed φ) negated
  | compare left op right => compare (left.renamed φ) op (right.renamed φ)
  | partySize op n core => partySize op n core
  | member whom what op n => member whom what op n

def Fault.renamed (φ : Char → Char) : Fault → Fault
  | malformed cause fragment => malformed cause (fragment.map φ)
  | unknownOpcode name => unknownOpcode (name.map φ)
  | unresolved kind name fragment => unresolved kind (name.map φ) (fragment.map φ)
  | crossContext fragment => crossContext (fragment.map φ)
  | divergence passes fragment => divergence passes (fragment.map φ)
  | numeral fault => numeral fault

/-- A renamed fault has the title it had. -/
theorem Fault.title?_renamed (φ : Char → Char) (fault : Fault) :
    (fault.renamed φ).title? = fault.title? := by
  cases fault <;> rfl

/-- Splits off a row of digits behind a sign. -/
def readDigitRun (negative : Bool) : Reader (Bool × List Nat) := fun s =>
  let digits := (s.takeWhile isDecimal).filterMap decimalValue?
  if digits.isEmpty then none else some ((negative, digits), s.dropWhile isDecimal)

/-- An address begins with an at sign. -/
theorem readAddress?_cons (c : Char) (s : List Char) : readAddress? (c :: s) =
    if c = '@' then (if s.isEmpty || s.contains '\n' then none else some (some s)) else none := by
  by_cases hat : c = '@'
  · subst hat
    rfl
  · rw [if_neg hat]
    unfold readAddress?
    split
    · next h => cases h
    · next h => exact absurd (List.cons.inj h).1 hat
    · rfl

section
variable {φ : Char → Char}

theorem mapError_numeral_renamed {α : Type} (x : Except NumeralFault α) :
    x.mapError Fault.numeral = renamedOutcome (Fault.renamed φ) id (x.mapError Fault.numeral) := by
  cases x <;> rfl

variable (hφ : Renaming φ)
include hφ

/-- A text without signs is the renaming of itself alone. -/
theorem Renaming.map_eq_iff {t : List Char} (ht : ∀ c ∈ t, c ∉ escapeSigns) (s : List Char) :
    s.map φ = t ↔ s = t := by
  induction t generalizing s with
  | nil => exact List.map_eq_nil_iff
  | cons d t ih =>
    obtain ⟨hd, ht⟩ := List.forall_mem_cons.mp ht
    cases s with
    | nil => simp
    | cons c s => simp only [List.map_cons, List.cons.injEq, hφ.eq_iff hd, ih ht]

theorem Renaming.contains_map {d : Char} (hd : d ∉ escapeSigns) (s : List Char) :
    (s.map φ).contains d = s.contains d := by
  have hclass : ∀ c ∈ escapeSigns, (d == c) = (d == '\\') := by
    intro c hc
    have hne : d ≠ c := fun h => hd (h ▸ hc)
    have hne' : d ≠ '\\' := fun h => hd (h ▸ by decide)
    rw [beq_false_of_ne hne, beq_false_of_ne hne']
  rw [List.contains_eq_any_beq, List.contains_eq_any_beq, List.any_map]
  exact congrArg s.any (funext fun c => hφ.class_eq hclass c)

/-! Numerals. -/

omit hφ in
/-- What is split off behind a sign, which is a minus or nothing. -/
theorem readSigned_cons (c : Char) (s : List Char) : Numeral.readSigned (c :: s) =
    if c = '-' then readDigitRun true s else readDigitRun false (c :: s) := by
  unfold Numeral.readSigned
  split
  rename_i heq
  split at heq
  · next hcons =>
    obtain ⟨rfl, rfl⟩ := List.cons.inj hcons
    cases heq
    rfl
  · next hother =>
    cases heq
    have hminus : c ≠ '-' := fun h => hother s (h ▸ rfl)
    rw [if_neg hminus]
    rfl

theorem readDigitRun_renamed (negative : Bool) :
    Reader.Renamed φ id (readDigitRun negative) (readDigitRun negative) := by
  have hdecimal : ∀ c ∈ escapeSigns, isDecimal c = isDecimal '\\' := by decide
  have hvalue : ∀ c ∈ escapeSigns, decimalValue? c = decimalValue? '\\' := by decide
  intro s
  simp only [readDigitRun, hφ.takeWhile_map hdecimal, hφ.filterMap_map hvalue,
    hφ.dropWhile_map hdecimal]
  split <;> rfl

theorem readSigned_renamed :
    Reader.Renamed φ id Numeral.readSigned Numeral.readSigned := by
  intro s
  cases s with
  | nil => rfl
  | cons c s =>
    rw [List.map_cons, readSigned_cons, readSigned_cons]
    by_cases hminus : c = '-'
    · rw [if_pos ((hφ.eq_iff (by decide) c).mpr hminus), if_pos hminus]
      exact readDigitRun_renamed hφ true s
    · rw [if_neg fun h => hminus ((hφ.eq_iff (by decide) c).mp h), if_neg hminus]
      exact readDigitRun_renamed hφ false (c :: s)

theorem readPlain_map (s : List Char) : Numeral.readPlain (s.map φ) = Numeral.readPlain s := by
  have hblank : ∀ c ∈ escapeSigns, isBlank c = isBlank '\\' := by decide
  rw [Numeral.readPlain, hφ.trimLeft_map, readSigned_renamed hφ, Numeral.readPlain]
  cases Numeral.readSigned (trimLeft s) with
  | none => rfl
  | some r =>
    simp only [Option.map_some, renamedRead, id, isBlankText, hφ.all_map hblank]
    rfl

/-- Digits are no signs. -/
theorem read_map_of_isDigits {s : List Char} (h : isDigits s = true) :
    Numeral.read (s.map φ) = Numeral.read s := by
  have hdigit : ∀ c ∈ escapeSigns, hasDigitValue c = false := by decide
  rw [hφ.map_eq_self_of_all hdigit (List.all_eq_true.mp (Bool.and_eq_true_iff.mp h).2)]

theorem isDigits_map (s : List Char) : isDigits (s.map φ) = isDigits s := by
  have hdigit : ∀ c ∈ escapeSigns, hasDigitValue c = hasDigitValue '\\' := by decide
  rw [isDigits, hφ.all_map hdigit, List.isEmpty_map, isDigits]

/-! Addresses. -/

theorem Place.parse_map (s : List Char) : Place.parse (s.map φ) =
    renamedOutcome (Fault.renamed φ) (Option.map (Place.renamed φ)) (Place.parse s) := by
  unfold Place.parse
  rw [hφ.trim_map, List.isEmpty_map, isDigits_map hφ]
  split
  · rfl
  · split
    · next hdigits =>
      rw [read_map_of_isDigits hφ hdigits]
      cases Numeral.read (trim s) <;> rfl
    · rfl

theorem parseAddress_map (address : Option (List Char)) (fragment : List Char) :
    parseAddress (address.map (List.map φ)) (fragment.map φ) =
      renamedOutcome (Fault.renamed φ)
        (Prod.map (Option.map (Place.renamed φ)) (Option.map (Place.renamed φ)))
        (parseAddress address fragment) := by
  cases address with
  | none => rfl
  | some address =>
    have hcolon : ∀ c ∈ escapeSigns, (c != ':') = ('\\' != ':') := by decide
    simp only [Option.map_some, parseAddress, hφ.trim_map, hφ.dropWhile_map hcolon,
      hφ.takeWhile_map hcolon]
    cases (trim address).dropWhile (· != ':') with
    | nil =>
      exact bind_renamedOutcome (Place.parse_map hφ (trim address)) fun context _ => rfl
    | cons c context =>
      simp only [List.map_cons, hφ.contains_map (d := ':') (by decide)]
      split
      · rfl
      · refine bind_renamedOutcome (Place.parse_map hφ _) fun container _ => ?_
        exact bind_renamedOutcome (Place.parse_map hφ context) fun context _ => rfl

theorem readAddress?_map (s : List Char) :
    readAddress? (s.map φ) = (readAddress? s).map (Option.map (List.map φ)) := by
  cases s with
  | nil => rfl
  | cons c s =>
    rw [List.map_cons, readAddress?_cons, readAddress?_cons, List.isEmpty_map,
      hφ.contains_map (by decide)]
    by_cases hat : c = '@'
    · rw [if_pos ((hφ.eq_iff (by decide) c).mpr hat), if_pos hat]
      split <;> rfl
    · rw [if_neg fun h => hat ((hφ.eq_iff (by decide) c).mp h), if_neg hat]
      rfl

/-! Switches. -/

theorem lower_map_eq_iff (word : List Char) (hword : ∀ c ∈ word, c ∉ escapeSigns)
    (s : List Char) : lower (s.map φ) = word ↔ lower s = word := by
  rw [hφ.lower_map, hφ.map_eq_iff hword]

theorem readSwitchSigil_map (s : List Char) : readSwitchSigil (s.map φ) =
    ((readSwitchSigil s).1, (readSwitchSigil s).2.map φ) := by
  unfold readSwitchSigil
  rw [hφ.readWord_map (by decide), hφ.readWord_map (by decide)]
  cases readWord ['s', 's'] s with
  | some r =>
    have hsmall := lower_map_eq_iff hφ ['s', 's'] (by decide) r.1
    simp only [Option.map_some, renamedRead, hsmall]
  | none =>
    cases readWord ['s'] s <;> rfl

theorem readSwitchSlot_renamed : Reader.Renamed φ id readSwitchSlot readSwitchSlot := by
  have hletter : ∀ c ∈ escapeSigns, isSelfLetter c = false := by decide
  have hdecimal : ∀ c ∈ escapeSigns, isDecimal c = isDecimal '\\' := by decide
  have hvalue : ∀ c ∈ escapeSigns, decimalValue? c = decimalValue? '\\' := by decide
  intro s
  cases s with
  | nil => rfl
  | cons c s =>
    have hclass : isSelfLetter (φ c) = isSelfLetter c :=
      hφ.class_eq (fun x hx => by rw [hletter x hx, hletter '\\' (by decide)]) c
    rw [List.map_cons, readSwitchSlot, readSwitchSlot, hclass]
    split
    · next hself =>
      have hsign : c ∉ escapeSigns := fun h => by
        rw [hletter c h] at hself
        cases hself
      rw [hφ.other c hsign]
      rfl
    · rw [← List.map_cons, hφ.takeWhile_map hdecimal, hφ.filterMap_map hvalue,
        hφ.dropWhile_map hdecimal]
      dsimp only
      split <;> rfl

theorem readSwitch?_map (s : List Char) : readSwitch? (s.map φ) =
    (readSwitch? s).map fun r => (r.1, r.2.1, r.2.2.map (List.map φ)) := by
  rw [readSwitch?, readSwitchSigil_map hφ, readSwitch?]
  refine bind_renamed (readSwitchSlot_renamed hφ _) ?_
  rintro ⟨slot, t⟩
  exact bind_renamed (readAddress?_map hφ t) fun address => rfl

theorem parseSwitch_map (text : List Char) : Operand.parseSwitch (text.map φ) =
    renamedOutcome (Fault.renamed φ) (Operand.renamed φ) (Operand.parseSwitch text) := by
  rw [Operand.parseSwitch, hφ.trim_map, readSwitch?_map hφ, Operand.parseSwitch]
  cases readSwitch? (trim text) with
  | none => rfl
  | some r =>
    obtain ⟨sigil, slot, address⟩ := r
    refine bind_renamedOutcome (parseAddress_map hφ address text) fun ⟨container, context⟩ _ => ?_
    cases slot with
    | letter c => rfl
    | digits values =>
      dsimp only [Prod.map]
      by_cases hself : sigil = .self
      · rw [if_pos hself, if_pos hself]
        exact bind_renamedOutcome (mapError_numeral_renamed _) fun n _ => rfl
      · rw [if_neg hself, if_neg hself, Option.isSome_map]
        by_cases haddress : address.isSome = true
        · rw [if_pos haddress, if_pos haddress]
          rfl
        · rw [if_neg haddress, if_neg haddress]
          exact bind_renamedOutcome (mapError_numeral_renamed _) fun n _ => rfl

theorem readSigil_map (s : List Char) : VariableToken.readSigil (s.map φ) =
    ((VariableToken.readSigil s).1, (VariableToken.readSigil s).2.map φ) := by
  unfold VariableToken.readSigil
  rw [hφ.readWord_map (by decide), hφ.readWord_map (by decide)]
  cases readWord ['s', 'v'] s with
  | some r =>
    have hsmall := lower_map_eq_iff hφ ['s', 'v'] (by decide) r.1
    simp only [Option.map_some, renamedRead, hsmall]
  | none =>
    cases readWord ['v'] s <;> rfl

/-! Variables. -/

theorem readToken_map (s : List Char) : VariableToken.read? (s.map φ) =
    (VariableToken.read? s).map fun r => (r.1, r.2.1, r.2.2.map (List.map φ)) := by
  rw [VariableToken.read?, readSigil_map hφ, VariableToken.read?]
  refine bind_renamed (readSigned_renamed hφ _) ?_
  rintro ⟨numeral, t⟩
  exact bind_renamed (readAddress?_map hφ t) fun address => rfl

theorem VariableToken.parse_map (token fragment : List Char) :
    VariableToken.parse (token.map φ) (fragment.map φ) =
      renamedOutcome (Fault.renamed φ) (VariableToken.renamed φ)
        (VariableToken.parse token fragment) := by
  rw [VariableToken.parse, readToken_map hφ, VariableToken.parse]
  cases VariableToken.read? token with
  | none => rfl
  | some r =>
    obtain ⟨sigil, ⟨negative, digits⟩, address⟩ := r
    simp only [Option.map_some, Option.isSome_map]
    split
    · rfl
    · exact bind_renamedOutcome (mapError_numeral_renamed _) fun n _ => rfl

theorem VariableToken.operand_map (t : VariableToken) (fragment : List Char) :
    (t.renamed φ).operand (fragment.map φ) =
      renamedOutcome (Fault.renamed φ) (Operand.renamed φ) (t.operand fragment) := by
  rw [VariableToken.operand, VariableToken.operand]
  by_cases hnegative : t.number < 0
  · simp only [VariableToken.renamed_number, hnegative, if_true]
    rfl
  · simp only [VariableToken.renamed_number, VariableToken.renamed_sigil, hnegative, if_false]
    by_cases hself : t.sigil = .self
    · simp only [hself, if_true]
      exact bind_renamedOutcome (parseAddress_map hφ t.address fragment) fun address _ => rfl
    · simp only [hself, if_false]
      rfl

/-! Comparisons. -/

theorem readComparison_renamed : Reader.Renamed φ id Comparison.read Comparison.read := by
  have hsign : ∀ c ∈ escapeSigns, Comparison.isSign c = false := by decide
  have hclass : ∀ c ∈ escapeSigns, Comparison.isSign c = Comparison.isSign '\\' := by decide
  intro s
  have hsame : (s.takeWhile Comparison.isSign).map φ = s.takeWhile Comparison.isSign :=
    hφ.map_eq_self_of_all hsign (List.all_eq_true.mp List.all_takeWhile)
  rw [Comparison.read, hφ.takeWhile_map hclass, hsame, hφ.dropWhile_map hclass, Comparison.read,
    Option.map_map]
  rfl

theorem splitComparison?_map (text : List Char) : splitComparison? (text.map φ) =
    (splitComparison? text).map fun r => (r.1.map φ, r.2.1, r.2.2.map φ) := by
  have hclass : ∀ c ∈ escapeSigns, isTokenCharacter c = isTokenCharacter '\\' := by decide
  have hblank : ∀ c ∈ escapeSigns, isBlank c = isBlank '\\' := by decide
  simp only [splitComparison?, hφ.trimLeft_map, hφ.dropWhile_map hclass, hφ.takeWhile_map hclass]
  refine bind_renamed (readComparison_renamed hφ _) ?_
  rintro ⟨op, t⟩
  simp only [renamedRead, id, hφ.trimLeft_map, hφ.dropWhile_map hclass, hφ.takeWhile_map hclass,
    List.isEmpty_map, isBlankText, hφ.all_map hblank]
  split
  · next hbad =>
    simp only [hbad, if_true]
    rfl
  · next hgood =>
    simp only [hgood]
    rfl

/-- A constant holds no text, and a variable is renamed with its token. -/
theorem leftOperand_map (p : Prop) [Decidable p] (left : VariableToken) (op : Comparison)
    (right : Operand) (text : List Char) :
    (if p then do
        let operand ← pure (Operand.constant left.number)
        return (operand, op, right.renamed φ)
      else do
        let operand ← (left.renamed φ).operand (text.map φ)
        return (operand, op, right.renamed φ)) =
      renamedOutcome (Fault.renamed φ) (fun r => (r.1.renamed φ, r.2.1, r.2.2.renamed φ))
        (if p then do
          let operand ← pure (Operand.constant left.number)
          return (operand, op, right)
        else do
          let operand ← left.operand text
          return (operand, op, right)) := by
  split
  · rfl
  · exact bind_renamedOutcome (VariableToken.operand_map hφ left text) fun operand _ => rfl

theorem parseComparison_map (text : List Char) : Operand.parseComparison (text.map φ) =
    renamedOutcome (Fault.renamed φ)
      (fun r => (r.1.renamed φ, r.2.1, r.2.2.renamed φ)) (Operand.parseComparison text) := by
  rw [Operand.parseComparison, splitComparison?_map hφ, Operand.parseComparison]
  cases splitComparison? text with
  | none => rfl
  | some r =>
    obtain ⟨left, op, right⟩ := r
    refine bind_renamedOutcome (VariableToken.parse_map hφ left text) fun left _ => ?_
    refine bind_renamedOutcome (VariableToken.parse_map hφ right text) fun right _ => ?_
    simp only [VariableToken.renamed_number, VariableToken.renamed_sigil]
    by_cases hbare : right.sigil = .bare
    · simp only [hbare, if_true]
      exact leftOperand_map hφ _ left op (.constant right.number) text
    · simp only [hbare, if_false]
      refine bind_renamedOutcome (VariableToken.operand_map hφ right text) fun operand _ => ?_
      exact leftOperand_map hφ _ left op operand text

/-! Conditions on the party. -/

theorem readBound?_map (s : List Char) : readBound? (s.map φ) = readBound? s := by
  rw [readBound?, readComparison_renamed hφ, readBound?]
  cases Comparison.read s with
  | none => rfl
  | some r =>
    simp only [Option.map_some, renamedRead, Option.bind_eq_bind, Option.bind_some,
      readPlain_map hφ]
    rfl

theorem readPartySize?_map (text : List Char) :
    readPartySize? (text.map φ) = readPartySize? text := by
  have hblank : ∀ c ∈ escapeSigns, isBlank c = isBlank '\\' := by decide
  have hlabel : ∀ c ∈ escapeSigns, isLabelCharacter c = isLabelCharacter '\\' := by decide
  unfold readPartySize?
  simp only [hφ.dropWhile_map hblank, hφ.dropWhile_map hlabel, hφ.trimLeft_map]
  cases trimLeft (List.dropWhile isLabelCharacter (List.dropWhile isBlank text)) with
  | nil => rfl
  | cons c s =>
    have hsign : Comparison.isSign (φ c) = Comparison.isSign c :=
      hφ.class_eq (p := Comparison.isSign) (by decide) c
    simp only [List.map_cons, hsign]
    rw [← List.map_cons, readBound?_map hφ, readPlain_map hφ]

theorem readMember?_map (text : List Char) : readMember? (text.map φ) = readMember? text := by
  have hletter : ∀ c ∈ escapeSigns, c.isAlpha = false := by decide
  have hclass : ∀ c ∈ escapeSigns, c.isAlpha = '\\'.isAlpha := by decide
  have hword : ((trimLeft text).takeWhile Char.isAlpha).map φ =
      (trimLeft text).takeWhile Char.isAlpha :=
    hφ.map_eq_self_of_all hletter (List.all_eq_true.mp List.all_takeWhile)
  simp only [readMember?, hφ.trimLeft_map, hφ.takeWhile_map hclass, hφ.dropWhile_map hclass, hword,
    readBound?_map hφ]

/-- A renamed condition is read as the condition, renamed. -/
theorem Condition.parse_map (opcode : Opcode) (text : List Char) :
    Condition.parse opcode (text.map φ) =
      renamedOutcome (Fault.renamed φ) (Condition.renamed φ) (Condition.parse opcode text) := by
  have hblank : ∀ c ∈ escapeSigns, isBlank c = isBlank '\\' := by decide
  unfold Condition.parse
  simp only [isBlankText, hφ.all_map hblank, readPartySize?_map hφ, readMember?_map hφ]
  -- each opcode has its own grammar; the two of a kind share one
  by_cases hempty : text.all isBlank = true
  · simp only [hempty, if_true]
    rfl
  · simp only [hempty]
    cases opcode with
    | on | off => exact bind_renamedOutcome (parseSwitch_map hφ text) fun operand _ => rfl
    | ov => exact bind_renamedOutcome (parseComparison_map hφ text) fun r _ => rfl
    | ops | opc =>
      cases readPartySize? text with
      | none => rfl
      | some r => exact bind_renamedOutcome (mapError_numeral_renamed r.2) fun n _ => rfl
    | opl | opm =>
      cases readMember? text with
      | none => rfl
      | some r =>
        dsimp only
        cases Attribute.ofBeginning? r.1 with
        | none => rfl
        | some a => exact bind_renamedOutcome (mapError_numeral_renamed r.2.2) fun n _ => rfl

end
end DialogueMarkup
