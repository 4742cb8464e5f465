import Mathlib.Data.List.Basic
import DialogueMarkup.Proofs.RespelledExpansion
import DialogueMarkup.Summary

/-! The summary of a respelled text. It counts what the summary of the text counts and lists the
same slots; what it quotes from the text is respelled. -/
namespace DialogueMarkup
open Text Markup

/-- Two outcomes that are alike: results that stand in a relation, or faults that do. -/
inductive OutcomeRel {ε α β : Type} (F : ε → ε → Prop) (R : α → β → Prop) :
    Except ε α → Except ε β → Prop
  | ok {a b} (h : R a b) : OutcomeRel F R (.ok a) (.ok b)
  | error {e e'} (h : F e e') : OutcomeRel F R (.error e) (.error e')

/-- What is alike to a result is one. -/
theorem OutcomeRel.exists_of_ok {ε α β : Type} {F : ε → ε → Prop} {R : α → β → Prop} {a : α}
    {y : Except ε β} (h : OutcomeRel F R (.ok a) y) : ∃ b, y = .ok b ∧ R a b := by
  cases h with
  | ok h => exact ⟨_, rfl, h⟩

theorem OutcomeRel.bind {ε α β γ δ : Type} {F : ε → ε → Prop} {R : α → β → Prop} {S : γ → δ → Prop}
    {x : Except ε α} {y : Except ε β} {f : α → Except ε γ} {g : β → Except ε δ}
    (h : OutcomeRel F R x y) (hfg : ∀ a b, R a b → OutcomeRel F S (f a) (g b)) :
    OutcomeRel F S (x >>= f) (y >>= g) := by
  cases h with
  | ok h => exact hfg _ _ h
  | error h => exact .error h

namespace Summary

/-- What the summaries of a text and of the text with its signs renamed have in common. -/
structure Matches (φ : Char → Char) (m m' : Summary) : Prop where
  directiveCount : m'.directiveCount = m.directiveCount
  opcodes : m'.opcodes = m.opcodes
  switches : m'.switches = m.switches
  vars : m'.vars = m.vars
  selfSwitches : m'.selfSwitches = m.selfSwitches
  selfReferences : m'.selfReferences = m.selfReferences.map (List.map φ)
  partyConditions : m'.partyConditions = m.partyConditions.map (List.map φ)
  grammarCodes : m'.grammarCodes = m.grammarCodes
  braceEscapes : m'.braceEscapes = m.braceEscapes
  problems : m'.problems.length = m.problems.length

theorem note_map {α β : Type} [DecidableEq α] [DecidableEq β] {f : α → β}
    (hf : Function.Injective f) (xs : List α) (x : α) :
    note (xs.map f) (f x) = (note xs x).map f := by
  by_cases hx : x ∈ xs
  · rw [note, note, if_pos ((List.mem_map_of_injective hf).mpr hx), if_pos hx]
  · rw [note, note, if_neg fun h => hx ((List.mem_map_of_injective hf).mp h), if_neg hx,
      List.map_append, List.map_singleton]

section
variable {φ : Char → Char} (hφ : Renaming φ)
include hφ

theorem label_renamed {ref : SelfRef} (h : ref.Lettered) :
    label (ref.renamed φ) = (label ref).map φ := by
  have hkind : ∀ word ∈ ["switch".toList, "variable".toList], ∀ c ∈ word, c ∉ escapeSigns := by
    decide
  simp only [label, SelfRef.renamed, List.isEmpty_map]
  split
  · cases ref.kind <;>
      rw [List.map_append, List.map_cons, h.text_map hφ, hφ.other ':' (by decide),
        hφ.map_eq_self (hkind _ (by simp))]
  · rfl

variable (hinjective : Function.Injective φ) {m m' : Summary} (h : Matches φ m m')
include hinjective h

theorem Matches.noteOperand {operand : Operand} (hrefs : ∀ ref ∈ operand.refs, ref.Lettered) :
    Matches φ (m.noteOperand operand) (m'.noteOperand (operand.renamed φ)) := by
  cases operand with
  | constant n => exact h
  | global kind n =>
    cases kind with
    | switch => exact { h with switches := congrArg (note · n) h.switches }
    | _ => exact { h with vars := congrArg (note · n) h.vars }
  | self ref =>
    -- an injective renaming keeps apart the labels that are noted once each
    have hlabel := label_renamed hφ (hrefs ref (List.mem_singleton_self ref))
    have hreference : note m'.selfReferences (label (ref.renamed φ)) =
        (note m.selfReferences (label ref)).map (List.map φ) := by
      rw [h.selfReferences, hlabel, note_map (List.map_injective_iff.mpr hinjective)]
    have hneeds := ref.needsCrossContext_renamed (φ := φ)
    cases hslot : ref.slot with
    | number n =>
      have hslot' : (ref.renamed φ).slot = .number n := hslot
      simp only [Summary.noteOperand, Operand.renamed, hslot, hslot']
      exact { h with selfReferences := hreference }
    | name slot =>
      have hslot' : (ref.renamed φ).slot = .name slot := hslot
      simp only [Summary.noteOperand, Operand.renamed, hslot, hslot', hneeds]
      split
      · exact { h with selfReferences := hreference }
      · exact { h with selfSwitches := congrArg (note · slot) h.selfSwitches }

theorem Matches.noteCondition (head : Head) {c : Condition} (hrefs : ∀ ref ∈ c.refs, ref.Lettered) :
    Matches φ (m.noteCondition head c) (m'.noteCondition (head.respelled φ) (c.renamed φ)) := by
  have hlettered {operand : Operand} (hmem : operand ∈ c.operands) :
      ∀ ref ∈ operand.refs, ref.Lettered :=
    fun ref href => hrefs ref (List.mem_flatMap.mpr ⟨operand, hmem, href⟩)
  have hparty : m'.partyConditions ++
      [(head.respelled φ).opcode.name ++ argumentSource (head.respelled φ).condition] =
        (m.partyConditions ++ [head.opcode.name ++ argumentSource head.condition]).map
          (List.map φ) := by
    have hname : head.opcode.name.map φ = head.opcode.name :=
      hφ.map_eq_self (by cases head.opcode <;> decide)
    have hopen : φ '[' = '[' := hφ.other '[' (by decide)
    have hclose : φ ']' = ']' := hφ.other ']' (by decide)
    simp only [h.partyConditions, Head.respelled, argumentSource, List.map_append, List.map_cons,
      List.map_nil, hname, hopen, hclose]
  cases c with
  | switch operand negated => exact h.noteOperand hφ hinjective (hlettered List.mem_cons_self)
  | compare left op right =>
    have hleft := h.noteOperand hφ hinjective (hlettered List.mem_cons_self)
    exact hleft.noteOperand hφ hinjective
      (hlettered (List.mem_cons_of_mem left List.mem_cons_self))
  | partySize op n core => exact { h with partyConditions := hparty }
  | member whom what op n => exact { h with partyConditions := hparty }

/-- A respelled head is noted like the head: the condition under it is read alike, and a fault of
reading stays of its class. -/
theorem Matches.noteHead (head : Head) :
    OutcomeRel Eq (Matches φ) (m.noteHead head) (m'.noteHead (head.respelled φ)) := by
  have hcounted : Matches φ
      { m with
        directiveCount := m.directiveCount + 1
        opcodes := count head.opcode m.opcodes }
      { m' with
        directiveCount := m'.directiveCount + 1
        opcodes := count head.opcode m'.opcodes } :=
    { h with
      directiveCount := congrArg (· + 1) h.directiveCount
      opcodes := congrArg (count head.opcode) h.opcodes }
  have hproblem (message message' : List Char) : (m'.problems ++ [message']).length =
      (m.problems ++ [message]).length := by
    rw [List.length_append, List.length_append, h.problems]
    rfl
  have hparse := Condition.parse_map hφ head.opcode head.condition
  have hread := Condition.parse_readFrom head.opcode head.condition
  rw [Summary.noteHead, Summary.noteHead]
  cases hcondition : Condition.parse head.opcode head.condition with
  | ok c =>
    rw [hcondition] at hparse hread
    simp only [Head.respelled, hparse, renamedOutcome]
    exact .ok (hcounted.noteCondition hφ hinjective head hread.lettered)
  | error fault =>
    rw [hcondition] at hparse
    simp only [Head.respelled, hparse, renamedOutcome]
    -- a numeral that is too long ends the scan, any other fault is listed
    cases fault with
    | numeral fault => exact .error rfl
    | _ => exact .ok { hcounted with problems := hproblem _ _ }

theorem Matches.foldlM (heads : List Head) :
    OutcomeRel Eq (Matches φ) (heads.foldlM Summary.noteHead m)
      ((heads.map (Head.respelled φ)).foldlM Summary.noteHead m') := by
  induction heads generalizing m m' with
  | nil => exact .ok h
  | cons head heads ih =>
    rw [List.map_cons, List.foldlM_cons, List.foldlM_cons]
    exact (h.noteHead hφ hinjective head).bind fun _ _ hnext => ih hnext

end

end Summary

namespace Respelling
open Summary
variable (ρ : Respelling)

/-- A mention is the name of its code, in capitals. -/
theorem readMention_renamed :
    Reader.Renamed ρ.map id (readMention ρ.before) (readMention ρ.after) := by
  intro s
  refine bind_renamed (ρ.readEscape_renamed s) fun ⟨e, t⟩ => ?_
  refine orElse_renamed (findSome?_renamed fun name hname => ?_)
    (orElse_renamed (findSome?_renamed fun name hname => ?_) ?_)
  · have hword : ∀ name ∈ ["NUMWORD", "ORDWORD", "ORD"], Signless name.toList := by decide
    refine bind_renamed (ρ.moves.readWord_map (hword name hname) t) fun ⟨_, u⟩ => ?_
    exact bind_renamed (readChar_map ρ.moves (by decide) u) fun v => rfl
  · have hword : ∀ name ∈ ["UP", "LOW"], Signless name.toList := by decide
    rw [ρ.moves.readWord_map (hword name hname) t]
    cases readWord name.toList t <;> rfl
  · refine bind_renamed (ρ.moves.readWord_map (by decide) t) fun ⟨_, u⟩ => ?_
    have hletter : ∀ c ∈ escapeSigns, isLatinLetter c = isLatinLetter '\\' := by decide
    simp only [renamedRead, ρ.moves.head?_any_map hletter]
    split <;> rfl

theorem readBraceEscape_renamed :
    Reader.Renamed ρ.map (List.map ρ.map) (readBraceEscape ρ.before) (readBraceEscape ρ.after) := by
  intro s
  exact orElse_renamed (ρ.readBare_renamed (by decide) s) (ρ.readBare_renamed (by decide) s)

/-- A respelled text is summed up as the text is, or both summaries end at the same numeral. -/
theorem ofText_map (hinjective : Function.Injective ρ.map) (s : List Char) :
    OutcomeRel Eq (Matches ρ.map) (ofText ρ.before s) (ofText ρ.after (s.map ρ.map)) := by
  have hmentions : marks (readMention ρ.after) (s.map ρ.map) = marks (readMention ρ.before) s := by
    rw [ρ.readMention_renamed.marks_eq, List.map_id]
  have hbraces : (marks (readBraceEscape ρ.after) (s.map ρ.map)).length =
      (marks (readBraceEscape ρ.before) s).length := by
    rw [ρ.readBraceEscape_renamed.marks_eq, List.length_map]
  have hempty : Matches ρ.map {} {} := ⟨rfl, rfl, rfl, rfl, rfl, rfl, rfl, rfl, rfl, rfl⟩
  rw [ofText, ofText, ρ.readHead_renamed.marks_eq, hmentions, hbraces]
  refine (hempty.foldlM ρ.moves hinjective _).bind fun m m' h => .ok ?_
  exact { h with
    switches := congrArg (List.mergeSort · (· ≤ ·)) h.switches
    vars := congrArg (List.mergeSort · (· ≤ ·)) h.vars
    grammarCodes := rfl
    braceEscapes := rfl }

end Respelling
end DialogueMarkup
