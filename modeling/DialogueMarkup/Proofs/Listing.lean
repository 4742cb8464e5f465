import Mathlib.Data.List.Nodup
import DialogueMarkup.Proofs.FormSession
import DialogueMarkup.Proofs.Labels

/-! What a summary lists. Every head adds to the counts, and to the lists what they did not hold;
the labels are those of the references in conditions that can be read, each of which is read again
from its label. So the parts of the form for a summary have identifiers of their own. -/
namespace DialogueMarkup
open Text Markup

/-- A reference in the condition of a head, if that can be read. -/
def Markup.Head.Refers (head : Head) (ref : SelfRef) : Prop :=
  ∃ c, Condition.parse head.opcode head.condition = .ok c ∧ ref ∈ c.refs

namespace Summary

/-! Lists that are added to. -/

section
variable {α : Type} [DecidableEq α]

theorem nodup_note {xs : List α} (h : xs.Nodup) (x : α) : (note xs x).Nodup := by
  unfold note
  split
  · exact h
  · next hnew =>
    rw [← List.concat_eq_append]
    exact h.concat hnew

theorem nodup_foldl_note {xs : List α} (h : xs.Nodup) (ys : List α) :
    (ys.foldl note xs).Nodup := by
  induction ys generalizing xs with
  | nil => exact h
  | cons y ys ih => exact ih (nodup_note h y)

end

/-- One more use of an opcode is one more in the sum of the uses. -/
theorem sum_count (op : Opcode) (uses : List (Opcode × Nat)) :
    ((count op uses).map Prod.snd).sum = (uses.map Prod.snd).sum + 1 := by
  induction uses with
  | nil => rfl
  | cons use uses ih =>
    obtain ⟨o, n⟩ := use
    rw [count]
    split
    · simp only [List.map_cons, List.sum_cons]
      omega
    · simp only [List.map_cons, List.sum_cons, ih]
      omega

/-- The numbers of a summary agree: the uses of opcodes add up to the directives, and a directive is
listed as a problem or as a condition on the party at most once. -/
structure Balanced (m : Summary) : Prop where
  count : m.directiveCount = (m.opcodes.map Prod.snd).sum
  room : m.problems.length + m.partyConditions.length ≤ m.directiveCount

/-- Nothing is listed twice. -/
structure Distinct (m : Summary) : Prop where
  switches : m.switches.Nodup
  vars : m.vars.Nodup
  selfSwitches : m.selfSwitches.Nodup
  selfReferences : m.selfReferences.Nodup

section
variable {m m' : Summary} (operand : Operand) {head : Head} {c : Condition}

/-- What an operand reads is noted beside all that is counted. -/
theorem noteOperand_counts (m : Summary) :
    (m.noteOperand operand).opcodes = m.opcodes ∧
      (m.noteOperand operand).partyConditions = m.partyConditions := by
  rcases operand with n | ⟨_ | _, id⟩ | ref
  · exact ⟨rfl, rfl⟩
  · exact ⟨rfl, rfl⟩
  · exact ⟨rfl, rfl⟩
  · simp only [noteOperand]
    split
    · split <;> exact ⟨rfl, rfl⟩
    · exact ⟨rfl, rfl⟩

theorem Distinct.noteOperand (h : m.Distinct) : (m.noteOperand operand).Distinct := by
  have hreference (ref : SelfRef) :
      Distinct { m with selfReferences := note m.selfReferences (label ref) } :=
    { h with selfReferences := nodup_note h.selfReferences _ }
  rcases operand with n | ⟨_ | _, id⟩ | ref
  · exact h
  · exact { h with switches := nodup_note h.switches id }
  · exact { h with vars := nodup_note h.vars id }
  · simp only [Summary.noteOperand]
    split
    · split
      · exact hreference ref
      · exact { h with selfSwitches := nodup_note h.selfSwitches _ }
    · exact hreference ref

/-- The labels after an operand are those before it, and its own if it is a reference that not
every host has to read. -/
theorem mem_selfReferences_noteOperand (m : Summary) {name : List Char} :
    name ∈ (m.noteOperand operand).selfReferences ↔ name ∈ m.selfReferences ∨
      ∃ ref ∈ operand.refs, ref.needsCrossContext = true ∧ label ref = name := by
  cases operand with
  | constant n => simp [noteOperand, Operand.refs]
  | global kind id => cases kind <;> simp [noteOperand, Operand.refs]
  | self ref =>
    have hreference : name ∈ note m.selfReferences (label ref) ↔
        name ∈ m.selfReferences ∨ label ref = name := by
      rw [mem_note, eq_comm]
    simp only [noteOperand, Operand.refs, List.mem_singleton, exists_eq_left]
    split
    · split
      · next hneeds => simpa [hneeds] using hreference
      · next hneeds => simp [hneeds]
    · next n hslot =>
      have hneeds : ref.needsCrossContext = true := by simp [SelfRef.needsCrossContext, hslot]
      simpa [hneeds] using hreference

theorem Distinct.noteCondition (h : m.Distinct) : (m.noteCondition head c).Distinct := by
  cases c with
  | switch operand negated => exact h.noteOperand operand
  | compare left op right => exact (h.noteOperand left).noteOperand right
  | partySize op n core => exact { h with }
  | member whom what op n => exact { h with }

theorem mem_selfReferences_noteCondition (m : Summary) {name : List Char} :
    name ∈ (m.noteCondition head c).selfReferences ↔ name ∈ m.selfReferences ∨
      ∃ ref ∈ c.refs, ref.needsCrossContext = true ∧ label ref = name := by
  cases c with
  | switch operand negated =>
    simp [noteCondition, mem_selfReferences_noteOperand, Condition.refs, Condition.operands]
  | compare left op right =>
    simp only [noteCondition, mem_selfReferences_noteOperand, Condition.refs, Condition.operands,
      List.flatMap_cons, List.flatMap_nil, List.append_nil, List.mem_append, or_and_right,
      exists_or, or_assoc]
  | partySize op n core => simp [noteCondition, Condition.refs, Condition.operands]
  | member whom what op n => simp [noteCondition, Condition.refs, Condition.operands]

/-- A condition takes at most one place in the list of conditions on the party. -/
theorem noteCondition_counts (m : Summary) (head : Head) (c : Condition) :
    (m.noteCondition head c).opcodes = m.opcodes ∧
      (m.noteCondition head c).partyConditions.length ≤ m.partyConditions.length + 1 := by
  cases c with
  | switch operand negated =>
    obtain ⟨hopcodes, hparty⟩ := noteOperand_counts operand m
    exact ⟨hopcodes, by simp [noteCondition, hparty]⟩
  | compare left op right =>
    obtain ⟨hopcodes, hparty⟩ := noteOperand_counts left m
    obtain ⟨hopcodes', hparty'⟩ := noteOperand_counts right (m.noteOperand left)
    exact ⟨hopcodes'.trans hopcodes, by simp [noteCondition, hparty', hparty]⟩
  | partySize op n core => exact ⟨rfl, by simp [noteCondition]⟩
  | member whom what op n => exact ⟨rfl, by simp [noteCondition]⟩

/-! One head, and all heads. -/

theorem Balanced.noteHead (hm : m.Balanced) (h : m.noteHead head = .ok m') : m'.Balanced := by
  have hcount := hm.count
  have hroom := hm.room
  have hsum := sum_count head.opcode m.opcodes
  simp only [Summary.noteHead] at h
  split at h
  · next c hc =>
    cases h
    obtain ⟨hdirectives, hproblems⟩ := noteCondition_report { m with
      directiveCount := m.directiveCount + 1
      opcodes := Summary.count head.opcode m.opcodes } head c
    obtain ⟨hopcodes, hparty⟩ := noteCondition_counts { m with
      directiveCount := m.directiveCount + 1
      opcodes := Summary.count head.opcode m.opcodes } head c
    refine ⟨?_, ?_⟩
    · rw [hdirectives, hopcodes]
      dsimp only
      omega
    · rw [hdirectives, hproblems]
      dsimp only at hparty ⊢
      omega
  · cases h
  · cases h
    refine ⟨?_, ?_⟩
    · dsimp only
      omega
    · simp only [List.length_append, List.length_singleton]
      omega

theorem Distinct.noteHead (hm : m.Distinct) (h : m.noteHead head = .ok m') : m'.Distinct := by
  have hcounted : Distinct { m with
      directiveCount := m.directiveCount + 1
      opcodes := count head.opcode m.opcodes } := { hm with }
  simp only [Summary.noteHead] at h
  split at h
  · cases h
    exact hcounted.noteCondition
  · cases h
  · cases h
    exact { hm with }

theorem mem_selfReferences_noteHead (h : m.noteHead head = .ok m') {name : List Char} :
    name ∈ m'.selfReferences ↔ name ∈ m.selfReferences ∨
      ∃ ref, head.Refers ref ∧ ref.needsCrossContext = true ∧ label ref = name := by
  simp only [noteHead] at h
  split at h
  · next c hc =>
    cases h
    have hrefers (ref : SelfRef) : head.Refers ref ↔ ref ∈ c.refs := by
      simp [Head.Refers, hc]
    simp only [mem_selfReferences_noteCondition, hrefers]
  · cases h
  · next fault _ hfault =>
    cases h
    simp [Head.Refers, hfault]

/-- The labels that a scan lists are those of the references it has come by. -/
theorem mem_selfReferences_foldlM {heads : List Head} (h : heads.foldlM noteHead m = .ok m')
    {name : List Char} : name ∈ m'.selfReferences ↔ name ∈ m.selfReferences ∨
      ∃ head ∈ heads, ∃ ref, head.Refers ref ∧ ref.needsCrossContext = true ∧
        label ref = name := by
  induction heads generalizing m with
  | nil =>
    cases h
    simp
  | cons head heads ih =>
    rw [List.foldlM_cons] at h
    obtain ⟨n, hn, hrest⟩ := bind_eq_ok h
    simp only [ih hrest, mem_selfReferences_noteHead hn, List.exists_mem_cons_iff, or_assoc]

end

/-- Without repetition, what is sorted increases. -/
theorem pairwise_lt_mergeSort {xs : List Int} (h : xs.Nodup) :
    (xs.mergeSort (· ≤ ·)).Pairwise (· < ·) := by
  have hsorted : (xs.mergeSort (· ≤ ·)).Pairwise fun a b => decide (a ≤ b) = true :=
    List.pairwise_mergeSort (by simpa using fun a b c => Int.le_trans)
      (by simpa using Int.le_total) xs
  have hnodup : (xs.mergeSort (· ≤ ·)).Nodup := (List.mergeSort_perm xs _).nodup_iff.mpr h
  refine hsorted.imp₂ (fun a b hle hne => ?_) hnodup
  have hle : a ≤ b := by simpa using hle
  omega

end Summary

/-! The form for a summary. -/

namespace Numeral

theorem writeNat_injective : Function.Injective writeNat := by
  intro m n h
  rw [← value_writeNat m, ← value_writeNat n, h]

theorem write_injective : Function.Injective write := by
  have hminus (n : Nat) : '-' ∉ writeNat n := fun h =>
    absurd (isDigit_of_mem_writeNat h) (by decide)
  intro m n h
  unfold write at h
  split at h <;> split at h
  · have habs := writeNat_injective (List.cons.inj h).2
    omega
  · exact absurd (h ▸ List.mem_cons_self) (hminus n.natAbs)
  · exact absurd (h ▸ List.mem_cons_self) (hminus m.natAbs)
  · have habs := writeNat_injective h
    omega

end Numeral

namespace Preview

/-- The identifier of a toggle or an input. -/
def Row.id? : Row → Option (List Char)
  | label _ => none
  | toggle id _ => some id
  | input id _ => some id

/-- The identifiers of the toggles and inputs that a form shows. -/
def Form.ids (f : Form) : List (List Char) := f.rows.filterMap Row.id?

theorem Form.ids_ofSummary (m : Summary) (st : State) : (ofSummary m st).ids =
    m.switches.map (fun id => "switch-".toList ++ Numeral.write id) ++
      (m.selfSwitches.map ("self-".toList ++ ·) ++
        m.vars.map fun id => "var-".toList ++ Numeral.write id) := by
  -- a form without entries shows a label alone, which has no identifier
  have hempty (rows : List Row) (notice : List Char) :
      (if rows.isEmpty then [.label notice] else rows).filterMap Row.id? =
        rows.filterMap Row.id? := by
    cases rows <;> rfl
  have hentries {α : Type} (xs : List α) (name : α → List Char) (row : α → Row) (id : α → List Char)
      (hid : ∀ x, (row x).id? = some (id x)) :
      (xs.flatMap fun x => [boldLabel (name x), row x]).filterMap Row.id? = xs.map id := by
    induction xs with
    | nil => rfl
    | cons x xs ih =>
      have hlabel : (boldLabel (name x)).id? = none := rfl
      rw [List.flatMap_cons, List.filterMap_append, ih]
      simp [hlabel, hid]
  rw [ids, rows, hempty, List.filterMap_append, List.filterMap_append, List.append_assoc,
    hentries _ _ _ (fun e => "switch-".toList ++ Numeral.write e.1) fun _ => rfl,
    hentries _ _ _ (fun e => "self-".toList ++ e.1) fun _ => rfl,
    hentries _ _ _ (fun e => "var-".toList ++ Numeral.write e.1) fun _ => rfl]
  simp [ofSummary, Function.comp_def]

/-- If a summary lists nothing twice, no two parts of its form have the same identifier. -/
theorem Form.nodup_ids {m : Summary} (hswitches : m.switches.Nodup)
    (hselfSwitches : m.selfSwitches.Nodup) (hvars : m.vars.Nodup) (st : State) :
    (ofSummary m st).ids.Nodup := by
  have hnumbered (name : String) :
      Function.Injective fun id : Int => name.toList ++ Numeral.write id :=
    fun _ _ h => Numeral.write_injective (List.append_cancel_left h)
  have hnamed : Function.Injective ("self-".toList ++ ·) := fun _ _ h => List.append_cancel_left h
  rw [ids_ofSummary, List.nodup_append, List.nodup_append]
  refine ⟨hswitches.map (hnumbered _), ⟨hselfSwitches.map hnamed, hvars.map (hnumbered _), ?_⟩, ?_⟩
  · simp only [List.forall_mem_map]
    intro slot _ id _ h
    cases h
  · simp only [List.forall_mem_append, List.forall_mem_map]
    refine fun id _ => ⟨fun slot _ h => ?_, fun id' _ h => ?_⟩ <;> cases h

end Preview

namespace Summary

/-- What a summary says of a text is consistent. The uses of opcodes add up to the directives, among
which the problems and the conditions on the party have room; switches and variables increase, and
nothing else is listed twice; self switches are lettered. The labels are those of the references,
in conditions that can be read, that not every host has to read, and each is read again from its
label. So the parts of the form for the summary have identifiers of their own. -/
theorem ofText_consistent {escape : Char} {s : List Char} {m : Summary}
    (h : ofText escape s = .ok m) (st : State) :
    m.directiveCount = (m.opcodes.map Prod.snd).sum ∧
    m.problems.length + m.partyConditions.length ≤ m.directiveCount ∧
    m.switches.Pairwise (· < ·) ∧ m.vars.Pairwise (· < ·) ∧
    m.selfSwitches.Nodup ∧ m.selfReferences.Nodup ∧ m.grammarCodes.Nodup ∧
    (∀ slot ∈ m.selfSwitches, slot ∈ [['A'], ['B'], ['C'], ['D']]) ∧
    (∀ name ∈ m.selfReferences, ∃ ref, ref.IsReadFrom name ∧ ref.needsCrossContext = true ∧
      ∃ head ∈ marks (readHead escape) s, head.Refers ref) ∧
    (∀ head ∈ marks (readHead escape) s, ∀ ref, head.Refers ref → ref.needsCrossContext = true →
      ref.IsReadFrom (label ref) ∧ label ref ∈ m.selfReferences) ∧
    (Preview.Form.ofSummary m st).ids.Nodup := by
  have hlettered := lettered_of_ofText h
  simp only [ofText] at h
  -- notes are taken head by head, and every head keeps the two invariants
  obtain ⟨n, hfold, hm⟩ := bind_eq_ok h
  have hempty : Distinct {} := ⟨List.nodup_nil, List.nodup_nil, List.nodup_nil, List.nodup_nil⟩
  have hbalanced : n.Balanced := foldlM_preserves (fun _ _ _ hb hn => Balanced.noteHead hb hn)
    (⟨rfl, Nat.le_refl 0⟩ : Balanced {}) hfold
  have hdistinct : n.Distinct :=
    foldlM_preserves (fun _ _ _ hd hn => Distinct.noteHead hd hn) hempty hfold
  have hlabels (name : List Char) : name ∈ n.selfReferences ↔
      ∃ head ∈ marks (readHead escape) s, ∃ ref, head.Refers ref ∧
        ref.needsCrossContext = true ∧ label ref = name := by
    rw [mem_selfReferences_foldlM hfold]
    simp
  have hread {head : Head} {ref : SelfRef} (href : head.Refers ref) :
      ref.IsReadFrom (label ref) := by
    obtain ⟨c, hc, hmem⟩ := href
    exact Condition.isReadFrom_label hc hmem
  have hswitches := pairwise_lt_mergeSort hdistinct.switches
  have hvars := pairwise_lt_mergeSort hdistinct.vars
  cases hm
  refine ⟨hbalanced.count, hbalanced.room, hswitches, hvars, hdistinct.selfSwitches,
    hdistinct.selfReferences, nodup_foldl_note List.nodup_nil _, ?_, ?_, ?_, ?_⟩
  · intro slot hslot
    obtain ⟨c, hc, rfl⟩ := hlettered slot hslot
    exact List.mem_map_of_mem (f := fun c => [c]) hc
  · intro name hname
    obtain ⟨head, hhead, ref, href, hneeds, rfl⟩ := (hlabels name).mp hname
    exact ⟨ref, hread href, hneeds, head, hhead, href⟩
  · intro head hhead ref href hneeds
    exact ⟨hread href, (hlabels _).mpr ⟨head, hhead, ref, href, hneeds, rfl⟩⟩
  · apply Preview.Form.nodup_ids
    · exact hswitches.imp Int.ne_of_lt
    · exact hdistinct.selfSwitches
    · exact hvars.imp Int.ne_of_lt

/-- A text with a self switch and a self variable of other scopes, a condition on the party, and a
condition that cannot be read. -/
def referencesText : List Char := "\\ON[sa@Guard]\\OV[2 <= SV3@Town:]\\OPS[2]\\off[z]".toList

def referencesSummary : Summary where
  directiveCount := 4
  opcodes := [(.on, 1), (.ov, 1), (.ops, 1), (.off, 1)]
  switches := [].mergeSort (· ≤ ·)
  vars := [].mergeSort (· ≤ ·)
  selfReferences := ["sa@Guard".toList, "SV3@Town:".toList]
  partyConditions := ["OPS[2]".toList]
  problems := ["Invalid switch reference: 'z'".toList]

theorem ofText_consistent_references :
    ofText '\\' referencesText = .ok referencesSummary ∧
      referencesSummary.problems.length + referencesSummary.partyConditions.length ≤
        referencesSummary.directiveCount ∧
      (∃ ref : SelfRef, ref.IsReadFrom "SV3@Town:".toList ∧ ref.needsCrossContext = true ∧
        ∃ head ∈ marks (readHead '\\') referencesText, head.Refers ref) ∧
      (Preview.Form.ofSummary referencesSummary {}).ids.Nodup := by
  have hscan : ofText '\\' referencesText = .ok referencesSummary := rfl
  obtain ⟨-, hroom, -, -, -, -, -, -, hlabels, -, hids⟩ := ofText_consistent hscan {}
  have hmem : "SV3@Town:".toList ∈ referencesSummary.selfReferences := by decide
  exact ⟨hscan, hroom, hlabels _ hmem, hids⟩

end Summary

end DialogueMarkup
