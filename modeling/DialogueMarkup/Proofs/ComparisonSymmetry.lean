import DialogueMarkup.Proofs.ComparisonGrammar

/-! Comparisons of variables read from the other side, and comparisons with the opposite operator. A
side means the same number wherever it stands, unless both sides are bare numbers; and whether both
sides mean a number does not hang on the operator. -/
namespace DialogueMarkup
open Text Numeral

namespace Comparison

/-- The operator that says the same with the sides exchanged. -/
def mirror : Comparison → Comparison
  | eq => eq
  | ne => ne
  | gt => lt
  | ge => le
  | lt => gt
  | le => ge

/-- The operator that says the opposite. -/
def complement : Comparison → Comparison
  | eq => ne
  | ne => eq
  | gt => le
  | ge => lt
  | lt => ge
  | le => gt

theorem holds_mirror (op : Comparison) (a b : Int) : op.mirror.holds a b = op.holds b a := by
  cases op with
  | eq => exact Bool.beq_comm
  | ne => exact congrArg not Bool.beq_comm
  | gt => rfl
  | ge => rfl
  | lt => rfl
  | le => rfl

theorem holds_complement (op : Comparison) (a b : Int) :
    op.complement.holds a b = !op.holds a b := by
  have hlt (a b : Int) : decide (a ≤ b) = !decide (b < a) := by
    simp only [← decide_not, Int.not_lt]
  have hle (a b : Int) : decide (a < b) = !decide (b ≤ a) := by
    simp only [← decide_not, Int.not_le]
  cases op with
  | eq => rfl
  | ne => exact (Bool.not_not _).symm
  | gt => exact hlt a b
  | ge => exact hle a b
  | lt => exact hlt b a
  | le => exact hle b a

end Comparison

/-- A number without a sigil: perhaps a minus, and decimal digits. -/
def IsBareNumber (s : List Char) : Prop :=
  ∃ negative row, s = signOf negative ++ row ∧ row ≠ [] ∧ ∀ c ∈ row, isDecimal c = true

section
variable {ε α β : Type}

theorem toOption_bind (x : Except ε α) (f : α → Except ε β) :
    (x >>= f).toOption = x.toOption.bind fun a => (f a).toOption := by
  cases x <;> rfl

end

/-! What is read does not hang on the text that complaints quote. -/

section
variable (fragment fragment' : List Char)

theorem toOption_parseAddress (address : Option (List Char)) :
    (parseAddress address fragment).toOption = (parseAddress address fragment').toOption := by
  cases address with
  | none => rfl
  | some address =>
    simp only [parseAddress]
    split
    · rfl
    · split <;> rfl

namespace VariableToken

theorem toOption_parse (token : List Char) :
    (parse token fragment).toOption = (parse token fragment').toOption := by
  unfold parse
  split
  · rfl
  · split <;> rfl

theorem toOption_operand (t : VariableToken) :
    (t.operand fragment).toOption = (t.operand fragment').toOption := by
  by_cases hnegative : t.number < 0
  · rw [operand, operand, if_pos hnegative, if_pos hnegative]
    rfl
  · rw [operand, operand, if_neg hnegative, if_neg hnegative]
    by_cases hself : t.sigil = .self
    · rw [if_pos hself, if_pos hself, toOption_bind, toOption_bind,
        toOption_parseAddress fragment fragment']
    · rw [if_neg hself, if_neg hself]

theorem eq_of_readSigil_bare {s rest : List Char} (h : readSigil s = (.bare, rest)) : rest = s := by
  unfold readSigil at h
  split at h
  · have hsigil := (Prod.mk.inj h).1
    split at hsigil <;> cases hsigil
  · split at h
    · cases h
    · exact (Prod.mk.inj h).2.symm

/-- A bare token is a number without a sigil. -/
theorem isBareNumber_of_parse {token : List Char} {t : VariableToken}
    (h : parse token fragment = .ok t) (hbare : t.sigil = .bare) : IsBareNumber token := by
  cases hparts : read? token with
  | none => simp [parse, hparts] at h
  | some parts =>
    obtain ⟨sigil, ⟨negative, values⟩, address⟩ := parts
    simp only [parse, hparts] at h
    by_cases hself : (address.isSome && sigil != .self) = true
    · rw [if_pos hself] at h
      cases h
    · rw [if_neg hself] at h
      obtain ⟨number, -, heq⟩ := bind_eq_ok h
      cases heq
      obtain rfl : sigil = .bare := hbare
      obtain rfl : address = none := by simpa using hself
      rcases hsigil : readSigil token with ⟨sigil, s⟩
      simp only [read?, hsigil, Option.bind_eq_bind, Option.bind_eq_some_iff] at hparts
      obtain ⟨⟨x, rest⟩, hsigned, address, haddress, heq⟩ := hparts
      cases heq
      obtain rfl := eq_of_readSigil_bare hsigil
      obtain rfl : rest = [] := by simpa using readAddress?_eq_some_iff.mp haddress
      obtain ⟨row, hs, hne, hdecimal, -⟩ := exists_run_of_readSigned hsigned
      exact ⟨negative, row, by rw [hs, List.append_nil], hne, hdecimal⟩

end VariableToken

end

/-! What the sides of a comparison mean. -/

section
variable (st : State) (current : Scope)

namespace VariableToken

/-- The number that a token means: its own as a constant, else that of the variable which it names,
if there is one that can be reached. -/
def means? (constant : Bool) (t : VariableToken) : Option Int :=
  if constant then some t.number
  else (t.operand []).toOption.bind fun a => (a.value st current).toOption

theorem toOption_side {constant : Prop} [Decidable constant] (t : VariableToken)
    (fragment : List Char) :
    ((if constant then pure (.constant t.number) else t.operand fragment : Except Fault Operand)
      ).toOption.bind (fun a => (a.value st current).toOption) = t.means? st current constant := by
  by_cases h : constant
  · simp only [means?, h, if_true, decide_true]
    rfl
  · simp only [means?, h, if_false, decide_false, Bool.false_eq_true, toOption_operand fragment []]

end VariableToken

namespace ComparisonLayout
open Condition
variable (l : ComparisonLayout)

/-- The verdict on a comparison, by what its sides mean. A bare number is a constant on the right,
and on the left only opposite a variable. -/
def verdict? : Option Bool :=
  (VariableToken.parse l.left []).toOption.bind fun left =>
    (VariableToken.parse l.right []).toOption.bind fun right =>
      (left.means? st current (left.sigil = .bare ∧ right.sigil ≠ .bare)).bind fun a =>
        (right.means? st current (right.sigil = .bare)).map fun b => l.op.holds a b

theorem isBlankText_text : isBlankText l.text = false := by
  obtain ⟨d, behind, hleft⟩ := List.exists_cons_of_ne_nil l.left_ne_nil
  have hd := (apart_of_isTokenCharacter (l.token_left d (by simp [hleft]))).1
  rw [isBlankText, List.all_eq_false]
  exact ⟨d, by simp [text, hleft], by simp [hd]⟩

/-- Both tokens are read, then the operand on the right is found and the one on the left. -/
theorem evaluate_text {name : List Char} (hname : Opcode.ofName? name = some .ov) :
    evaluate st current name l.text = (do
      let left ← VariableToken.parse l.left l.text
      let right ← VariableToken.parse l.right l.text
      let b ← (if right.sigil = .bare then pure (.constant right.number) else right.operand l.text)
      let a ← (if left.sigil = .bare ∧ right.sigil ≠ .bare then pure (.constant left.number)
        else left.operand l.text)
      holds st current (.compare a l.op b)) := by
  have hparse : Condition.parse .ov l.text = (do
      let sides ← Operand.parseComparison l.text
      return .compare sides.1 sides.2.1 sides.2.2) := by
    simp only [Condition.parse, l.isBlankText_text]
    rfl
  rw [evaluate_of_name hname, hparse, Operand.parseComparison_of_split l.splitComparison?_text]
  simp only [bind_assoc, pure_bind]

theorem toOption_evaluate {name : List Char} (hname : Opcode.ofName? name = some .ov) :
    (evaluate st current name l.text).toOption = l.verdict? st current := by
  rw [l.evaluate_text st current hname, verdict?, VariableToken.toOption_parse [] l.text,
    VariableToken.toOption_parse [] l.text]
  simp only [toOption_bind, Option.bind_assoc, ← VariableToken.toOption_side st current _ l.text]
  congr 1
  funext left
  congr 1
  funext right
  -- the right operand is found before the left one is, and its number after that of the left one
  rw [Option.bind_comm]
  congr 1
  funext a
  have hholds (b : Operand) : (holds st current (.compare a l.op b)).toOption =
      (a.value st current).toOption.bind fun m =>
        (b.value st current).toOption.map fun n => l.op.holds m n := by
    rw [holds, toOption_bind]
    simp only [toOption_bind, Option.map_eq_bind]
    rfl
  simp only [hholds]
  rw [Option.bind_comm]
  simp only [Option.map_bind, Function.comp_def]

/-- The number that a side means opposite a variable. -/
def side? (token : List Char) : Option Int :=
  (VariableToken.parse token []).toOption.bind fun t => t.means? st current (t.sigil = .bare)

/-- Unless both sides are bare numbers, neither hangs on the other. -/
theorem verdict?_eq_sides (h : ¬ (IsBareNumber l.left ∧ IsBareNumber l.right)) :
    l.verdict? st current = (side? st current l.left).bind fun a =>
      (side? st current l.right).map fun b => l.op.holds a b := by
  rw [verdict?, side?, side?]
  cases hleft : VariableToken.parse l.left [] with
  | error e => rfl
  | ok left =>
    cases hright : VariableToken.parse l.right [] with
    | error e => simp [Except.toOption]
    | ok right =>
      have hconstant : (left.sigil = .bare ∧ right.sigil ≠ .bare) ↔ left.sigil = .bare := by
        constructor
        · exact And.left
        · intro hbare
          refine ⟨hbare, fun hbare' => h ⟨?_, ?_⟩⟩
          · exact VariableToken.isBareNumber_of_parse [] hleft hbare
          · exact VariableToken.isBareNumber_of_parse [] hright hbare'
      simp only [Except.toOption, Option.bind_some, hconstant]

variable {l} {m : ComparisonLayout}

theorem verdict?_mirror (hleft : m.left = l.right) (hright : m.right = l.left)
    (hop : m.op = l.op.mirror) (h : ¬ (IsBareNumber l.left ∧ IsBareNumber l.right)) :
    m.verdict? st current = l.verdict? st current := by
  have h' : ¬ (IsBareNumber m.left ∧ IsBareNumber m.right) := by
    rw [hleft, hright]
    exact fun hboth => h hboth.symm
  calc m.verdict? st current
      = (side? st current l.right).bind fun b => (side? st current l.left).bind fun a =>
          some (l.op.holds a b) := by
        simp only [m.verdict?_eq_sides st current h', hleft, hright, hop, Comparison.holds_mirror,
          Option.map_eq_bind, Function.comp_def]
    _ = (side? st current l.left).bind fun a => (side? st current l.right).bind fun b =>
          some (l.op.holds a b) := by rw [Option.bind_comm]
    _ = l.verdict? st current := by
        simp only [l.verdict?_eq_sides st current h, Option.map_eq_bind, Function.comp_def]

theorem verdict?_complement (hleft : m.left = l.left) (hright : m.right = l.right)
    (hop : m.op = l.op.complement) :
    m.verdict? st current = (l.verdict? st current).map not := by
  simp only [verdict?, hleft, hright, hop, Comparison.holds_complement, Option.map_bind,
    Option.map_map, Function.comp_def]

/-- A comparison says the same with its sides exchanged and its operator mirrored, unless both sides
are bare numbers; with the complement of its operator it says the opposite. Where one of them is not
decided, the other is not decided either. -/
theorem evaluate_symmetry {name : List Char} (hname : Opcode.ofName? name = some .ov)
    (l m : ComparisonLayout) :
    (m.left = l.right → m.right = l.left → m.op = l.op.mirror →
      ¬ (IsBareNumber l.left ∧ IsBareNumber l.right) →
      (evaluate st current name m.text).toOption = (evaluate st current name l.text).toOption) ∧
    (m.left = l.left → m.right = l.right → m.op = l.op.complement →
      (evaluate st current name m.text).toOption =
        (evaluate st current name l.text).toOption.map not) := by
  rw [l.toOption_evaluate st current hname, m.toOption_evaluate st current hname]
  constructor
  · intro hleft hright hop hbare
    exact verdict?_mirror st current hleft hright hop hbare
  · intro hleft hright hop
    exact verdict?_complement st current hleft hright hop

theorem evaluate_symmetry_self : Opcode.ofName? "ov".toList = some .ov ∧
    ∃ l m k : ComparisonLayout, l.text = "sV2@4 >= -3".toList ∧ m.text = " -3<=sV2@4".toList ∧
      k.text = "sV2@4<-3 ".toList ∧ (m.left = l.right ∧ m.right = l.left ∧ m.op = l.op.mirror) ∧
      (k.left = l.left ∧ k.right = l.right ∧ k.op = l.op.complement) ∧
      ¬ (IsBareNumber l.left ∧ IsBareNumber l.right) ∧
      evaluate { selfVars := [((⟨1, some 4⟩, .number 2), -3)] } ⟨1, none⟩ "ov".toList m.text =
        .ok true ∧
      evaluate { selfVars := [((⟨1, some 4⟩, .number 2), -3)] } ⟨1, none⟩ "ov".toList k.text =
        .ok false := by
  have hname : Opcode.ofName? "ov".toList = some .ov := rfl
  let st : State := { selfVars := [((⟨1, some 4⟩, .number 2), -3)] }
  obtain ⟨l, hl, hleft, hop, hright⟩ := exists_of_splitComparison
    (show splitComparison? "sV2@4 >= -3".toList =
      some ("sV2@4".toList, .ge, "-3".toList) from rfl)
  obtain ⟨m, hm, hmleft, hmop, hmright⟩ := exists_of_splitComparison
    (show splitComparison? " -3<=sV2@4".toList = some ("-3".toList, .le, "sV2@4".toList) from rfl)
  obtain ⟨k, hk, hkleft, hkop, hkright⟩ := exists_of_splitComparison
    (show splitComparison? "sV2@4<-3 ".toList = some ("sV2@4".toList, .lt, "-3".toList) from rfl)
  have hmirror : m.left = l.right ∧ m.right = l.left ∧ m.op = l.op.mirror := by
    rw [hmleft, hmright, hmop, hleft, hright, hop]
    exact ⟨rfl, rfl, rfl⟩
  have hcomplement : k.left = l.left ∧ k.right = l.right ∧ k.op = l.op.complement := by
    rw [hkleft, hkright, hkop, hleft, hright, hop]
    exact ⟨rfl, rfl, rfl⟩
  have hbare : ¬ (IsBareNumber l.left ∧ IsBareNumber l.right) := by
    rintro ⟨⟨negative, row, hs, hne, hdecimal⟩, -⟩
    rw [hleft] at hs
    cases negative with
    | false => exact absurd (hdecimal 's' (by rw [← show _ = row from hs]; decide)) (by decide)
    | true => cases hs
  have hverdict : (evaluate st ⟨1, none⟩ "ov".toList l.text).toOption = some true := by
    rw [hl]
    rfl
  obtain ⟨hswap, -⟩ := evaluate_symmetry st ⟨1, none⟩ hname l m
  obtain ⟨-, hopposite⟩ := evaluate_symmetry st ⟨1, none⟩ hname l k
  refine ⟨hname, l, m, k, hl, hm, hk, hmirror, hcomplement, hbare, ?_, ?_⟩
  · exact toOption_eq_some.mp ((hswap hmirror.1 hmirror.2.1 hmirror.2.2 hbare).trans hverdict)
  · apply toOption_eq_some.mp
    rw [hopposite hcomplement.1 hcomplement.2.1 hcomplement.2.2, hverdict]
    rfl

end ComparisonLayout

end

end DialogueMarkup
