import DialogueMarkup.Proofs.Conditions
import DialogueMarkup.Proofs.Escape
import DialogueMarkup.Summary

/-! What a scan reports. Reading a legible condition gives the condition or a complaint about its
form, so a text whose conditions are legible is scanned to its end, with one problem for every
condition that cannot be read. -/
namespace DialogueMarkup
open Text Markup

/-- A text of a moderate length is legible if all its digits count in numerals. -/
theorem Numeral.legible_of_length_le {s : List Char}
    (hdecimal : ∀ c ∈ s, hasDigitValue c = true → isDecimal c = true)
    (hlength : s.length ≤ maxDigits) : Legible s where
  decimal := hdecimal
  short _ hrun _ := Nat.le_trans hrun.length_le hlength

section
variable {text : List Char} (hl : Numeral.Legible text)
include hl

/-- What is read from a legible text is read, or the complaint is about all of the text. -/
theorem Fault.ok_or_malformed {α : Type} {Q : α → Prop} {x : Except Fault α}
    (h : Ends Q (Fault.OfText text) x) :
    (∃ a, x = .ok a) ∨ ∃ cause, x = .error (.malformed cause text) := by
  cases x with
  | ok a => exact Or.inl ⟨a, rfl⟩
  | error fault =>
    rcases h with ⟨cause, rfl⟩ | ⟨-, hillegible⟩
    · exact Or.inr ⟨cause, rfl⟩
    · exact absurd hl hillegible

/-- Reading a legible condition ends in the condition or in a complaint about all of its text. -/
theorem Condition.parse_of_legible (opcode : Opcode) :
    (∃ c, Condition.parse opcode text = .ok c) ∨
      ∃ cause, Condition.parse opcode text = .error (.malformed cause text) :=
  Fault.ok_or_malformed hl (Condition.parse_readFrom opcode text)

end

namespace Summary

/-- The complaint about a head: the one about its condition, if that cannot be read. -/
def complaint? (head : Head) : Option (List Char) :=
  match Condition.parse head.opcode head.condition with
  | .ok _ => none
  | .error fault => some fault.message

section
variable {m : Summary} {head : Head}

theorem noteOperand_report (m : Summary) (operand : Operand) :
    (m.noteOperand operand).directiveCount = m.directiveCount ∧
      (m.noteOperand operand).problems = m.problems := by
  rcases operand with n | ⟨_ | _, id⟩ | ref
  · exact ⟨rfl, rfl⟩
  · exact ⟨rfl, rfl⟩
  · exact ⟨rfl, rfl⟩
  · simp only [noteOperand]
    split
    · split <;> exact ⟨rfl, rfl⟩
    · exact ⟨rfl, rfl⟩

/-- What a condition reads is noted beside the count and the problems. -/
theorem noteCondition_report (m : Summary) (head : Head) (c : Condition) :
    (m.noteCondition head c).directiveCount = m.directiveCount ∧
      (m.noteCondition head c).problems = m.problems := by
  cases c with
  | switch operand negated => exact noteOperand_report m operand
  | compare left op right =>
    obtain ⟨hcount, hproblems⟩ := noteOperand_report m left
    obtain ⟨hcount', hproblems'⟩ := noteOperand_report (m.noteOperand left) right
    exact ⟨hcount'.trans hcount, hproblems'.trans hproblems⟩
  | partySize op n core => exact ⟨rfl, rfl⟩
  | member whom what op n => exact ⟨rfl, rfl⟩

/-- A head with a legible condition is counted, and adds its complaint if there is one. -/
theorem noteHead_of_legible (hl : Numeral.Legible head.condition) (m : Summary) :
    ∃ m', m.noteHead head = .ok m' ∧ m'.directiveCount = m.directiveCount + 1 ∧
      m'.problems = m.problems ++ (complaint? head).toList := by
  unfold noteHead complaint?
  rcases Condition.parse_of_legible hl head.opcode with ⟨c, hc⟩ | ⟨cause, hc⟩
  · rw [hc]
    obtain ⟨hcount, hproblems⟩ := noteCondition_report { m with
      directiveCount := m.directiveCount + 1
      opcodes := count head.opcode m.opcodes } head c
    exact ⟨_, rfl, hcount, by simp [hproblems]⟩
  · rw [hc]
    exact ⟨_, rfl, rfl, rfl⟩

theorem foldlM_noteHead_of_legible {heads : List Head}
    (hl : ∀ head ∈ heads, Numeral.Legible head.condition) (m : Summary) :
    ∃ m', heads.foldlM noteHead m = .ok m' ∧
      m'.directiveCount = m.directiveCount + heads.length ∧
      m'.problems = m.problems ++ heads.filterMap complaint? := by
  induction heads generalizing m with
  | nil => exact ⟨m, rfl, rfl, by simp⟩
  | cons head heads ih =>
    obtain ⟨hhead, hheads⟩ := List.forall_mem_cons.mp hl
    obtain ⟨n, hn, hcount, hproblems⟩ := noteHead_of_legible hhead m
    obtain ⟨m', hm', hcount', hproblems'⟩ := ih hheads n
    refine ⟨m', ?_, ?_, ?_⟩
    · rw [List.foldlM_cons, hn]
      exact hm'
    · rw [hcount', hcount, List.length_cons]
      omega
    · rw [hproblems', hproblems, List.append_assoc]
      cases hc : complaint? head <;> simp [hc]

end

/-- Under every opcode a legible condition is read or found malformed. A text whose conditions are
legible is scanned to its end: every head is counted, and each one that cannot be read is reported
as one problem, in the order of the text. -/
theorem ofText_of_legible (opcode : Opcode) (text : List Char) (escape : Char) (s : List Char) :
    (Numeral.Legible text → (∃ c, Condition.parse opcode text = .ok c) ∨
      ∃ cause, Condition.parse opcode text = .error (.malformed cause text)) ∧
    ((∀ head ∈ marks (readHead escape) s, Numeral.Legible head.condition) →
      ∃ m, ofText escape s = .ok m ∧ m.directiveCount = (marks (readHead escape) s).length ∧
        m.problems = (marks (readHead escape) s).filterMap complaint?) := by
  refine ⟨fun hl => Condition.parse_of_legible hl opcode, fun hl => ?_⟩
  obtain ⟨m, hm, hcount, hproblems⟩ := foldlM_noteHead_of_legible hl {}
  simp only [ofText, hm]
  exact ⟨_, rfl, by simpa using hcount, by simpa using hproblems⟩

theorem ofText_of_legible_malformed :
    Numeral.Legible "sv3@Town:4 > 12".toList ∧
      ((∃ c, Condition.parse .ov "sv3@Town:4 > 12".toList = .ok c) ∨
        ∃ cause, Condition.parse .ov "sv3@Town:4 > 12".toList =
          .error (.malformed cause "sv3@Town:4 > 12".toList)) ∧
      ∃ m, ofText '\\' "\\ON[Z]\\OV[v1 > 2]".toList = .ok m ∧ m.directiveCount = 2 ∧
        m.problems = ["Invalid switch reference: 'Z'".toList] := by
  have hov : Numeral.Legible "sv3@Town:4 > 12".toList :=
    Numeral.legible_of_length_le (forall_mem_of_all (by decide)) (by decide)
  have hheads : ∀ head ∈ marks (readHead '\\') "\\ON[Z]\\OV[v1 > 2]".toList,
      Numeral.Legible head.condition := by
    intro head hmem
    rcases hmem with _ | ⟨_, _ | ⟨_, hnil⟩⟩
    · exact Numeral.legible_of_length_le (forall_mem_of_all (by decide)) (by decide)
    · exact Numeral.legible_of_length_le (forall_mem_of_all (by decide)) (by decide)
    · cases hnil
  obtain ⟨hparse, hscan⟩ := ofText_of_legible .ov "sv3@Town:4 > 12".toList '\\'
    "\\ON[Z]\\OV[v1 > 2]".toList
  exact ⟨hov, hparse hov, hscan hheads⟩

/-- A digit that counts in no numeral stands in an address: the condition is neither read nor found
malformed, and the scan breaks off. -/
theorem not_ofText_of_superscript :
    (¬ ∀ opcode text, (∃ c, Condition.parse opcode text = .ok c) ∨
      ∃ cause fragment, Condition.parse opcode text = .error (.malformed cause fragment)) ∧
    ¬ ∀ escape s, ∃ m, ofText escape s = .ok m := by
  have hparse : Condition.parse .on "A@²".toList = .error (.numeral (.malformed ['²'])) := rfl
  have hscan : ofText '\\' "\\ON[A@²]".toList = .error (.malformed ['²']) := rfl
  constructor
  · intro h
    rcases h .on "A@²".toList with ⟨c, hc⟩ | ⟨cause, fragment, hc⟩
    · rw [hparse] at hc
      cases hc
    · rw [hparse] at hc
      cases hc
  · intro h
    obtain ⟨m, hm⟩ := h '\\' "\\ON[A@²]".toList
    rw [hscan] at hm
    cases hm

end Summary

end DialogueMarkup
