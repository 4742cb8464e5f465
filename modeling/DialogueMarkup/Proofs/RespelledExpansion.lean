import DialogueMarkup.Engine
import DialogueMarkup.Proofs.Conditions
import DialogueMarkup.Proofs.Respelling
import DialogueMarkup.Proofs.RespelledConditions

/-! Expansion of a respelled text. In a state whose names do not tell renamed ones apart, a renamed
condition is decided as the condition was, so passes over a respelled text take the branches that
they took before, respelled, and end with the same fault, renamed, or after as many passes. -/
namespace DialogueMarkup
open Text Markup

/-- The names of a state are looked up alike when they are renamed. -/
structure Renaming.Keeps (φ : Char → Char) (st : State) : Prop where
  containers : ∀ s, st.containers.get? (s.map φ) = st.containers.get? s
  contexts : ∀ s, st.contexts.get? (s.map φ) = st.contexts.get? s

section
variable {φ : Char → Char}

theorem resolve_renamed {names : Table (List Char) Int}
    (hnames : ∀ s, names.get? (s.map φ) = names.get? s) (kind : NameKind) (ref : SelfRef)
    (place : Place) : (place.renamed φ).resolve names kind (ref.renamed φ) =
      renamedOutcome (Fault.renamed φ) id (place.resolve names kind ref) := by
  cases place with
  | id n => rfl
  | name s =>
    simp only [Place.renamed, Place.resolve, hnames, SelfRef.renamed, List.isEmpty_map]
    cases names.get? s with
    | some n => rfl
    | none =>
      by_cases hempty : ref.text.isEmpty = true
      · simp only [hempty, if_true]
        rfl
      · simp only [hempty]
        rfl

theorem read_renamed (kind : Kind) (st : State) (scope : Option Scope) (slot : Slot) :
    kind.read st scope slot = renamedOutcome (Fault.renamed φ) id (kind.read st scope slot) := by
  cases kind <;> exact mapError_numeral_renamed _

theorem SelfRef.needsCrossContext_renamed (ref : SelfRef) :
    (ref.renamed φ).needsCrossContext = ref.needsCrossContext := by
  rw [SelfRef.needsCrossContext, SelfRef.renamed, Option.isSome_map, Option.isSome_map]
  rfl

variable (hφ : Renaming φ)
include hφ

/-- The spelling of a slot that is lettered or numbered holds no sign. -/
theorem SelfRef.Lettered.text_map {ref : SelfRef} (h : ref.Lettered) :
    ref.slot.text.map φ = ref.slot.text := by
  cases hslot : ref.slot with
  | number n => exact hφ.map_eq_self_of_isNumeric (English.isNumeric_write n)
  | name s =>
    obtain ⟨c, hc, rfl⟩ := h s hslot
    have hletter : ∀ c ∈ selfLetters, c ∉ escapeSigns := by decide
    exact congrArg List.singleton (hφ.other c (hletter c hc))

variable {st : State} (hst : Renaming.Keeps φ st)
include hst

theorem SelfRef.scope_renamed {ref : SelfRef} (h : ref.Lettered) (current : Scope) :
    (ref.renamed φ).scope st current =
      renamedOutcome (Fault.renamed φ) id (ref.scope st current) := by
  have hcontainer (place : Place) := resolve_renamed hst.containers .container ref place
  have hcontext (place : Place) :
      (some <$> (place.renamed φ).resolve st.contexts .context (ref.renamed φ)) =
        renamedOutcome (Fault.renamed φ) id (some <$> place.resolve st.contexts .context ref) := by
    rw [resolve_renamed hst.contexts]
    cases place.resolve st.contexts .context ref <;> rfl
  rw [SelfRef.scope, SelfRef.scope, ref.needsCrossContext_renamed]
  by_cases hclosed : (ref.needsCrossContext && !st.crossContext) = true
  · -- what stands in the complaint is the spelling of the reference, or of its slot
    have htext : (if (ref.text.map φ).isEmpty then ref.slot.text else ref.text.map φ) =
        (if ref.text.isEmpty then ref.slot.text else ref.text).map φ := by
      rw [List.isEmpty_map]
      split
      · exact (h.text_map hφ).symm
      · rfl
    simp only [hclosed, if_true]
    exact congrArg (fun text => Except.error (Fault.crossContext text)) htext
  · simp only [hclosed]
    have hcontainer? : (ref.renamed φ).container = ref.container.map (Place.renamed φ) := rfl
    have hcontext? : (ref.renamed φ).context = ref.context.map (Place.renamed φ) := rfl
    rw [hcontainer?, hcontext?]
    cases ref.container with
    | none =>
      refine bind_renamedOutcome (g := id) rfl fun container _ => ?_
      cases ref.context with
      | none => rfl
      | some context => exact bind_renamedOutcome (hcontext context) fun _ _ => rfl
    | some container =>
      refine bind_renamedOutcome (hcontainer container) fun container _ => ?_
      cases ref.context with
      | none => rfl
      | some context => exact bind_renamedOutcome (hcontext context) fun _ _ => rfl

theorem Operand.value_renamed {operand : Operand} (h : ∀ ref ∈ operand.refs, ref.Lettered)
    (current : Scope) : (operand.renamed φ).value st current =
      renamedOutcome (Fault.renamed φ) id (operand.value st current) := by
  cases operand with
  | constant n => rfl
  | global kind n => exact read_renamed kind st none (.number n)
  | self ref =>
    have href : ref.Lettered := h ref (List.mem_singleton_self ref)
    exact bind_renamedOutcome (SelfRef.scope_renamed hφ hst href current) fun scope _ =>
      read_renamed ref.kind st (some scope) ref.slot

theorem Condition.holds_renamed {c : Condition} (h : ∀ ref ∈ c.refs, ref.Lettered)
    (current : Scope) : (c.renamed φ).holds st current =
      renamedOutcome (Fault.renamed φ) id (c.holds st current) := by
  have hvalue {operand : Operand} (hmem : operand ∈ c.operands) :
      (operand.renamed φ).value st current =
        renamedOutcome (Fault.renamed φ) id (operand.value st current) :=
    Operand.value_renamed hφ hst
      (fun ref href => h ref (List.mem_flatMap.mpr ⟨operand, hmem, href⟩)) current
  cases c with
  | switch operand negated => exact bind_renamedOutcome (hvalue List.mem_cons_self) fun n _ => rfl
  | compare left op right =>
    refine bind_renamedOutcome (hvalue List.mem_cons_self) fun a _ => ?_
    exact bind_renamedOutcome (hvalue (List.mem_cons_of_mem left List.mem_cons_self)) fun b _ => rfl
  | partySize op n core => rfl
  | member whom what op n => cases whom <;> rfl

omit hφ hst in
theorem Markup.Directive.branch_respelled (d : Directive) (holds : Bool) :
    (d.respelled φ).branch holds = (d.branch holds).map φ := by
  cases holds with
  | true => rfl
  | false =>
    simp only [Directive.branch, Directive.respelled]
    cases d.whenFalse? <;> rfl

/-- A respelled directive gives way to the branch it gave way to, respelled. -/
theorem Expansion.choose_respelled (current : Scope) (d : Directive) :
    choose st current (d.respelled φ) =
      renamedOutcome (Fault.renamed φ) (List.map φ) (choose st current d) := by
  refine bind_renamedOutcome (Condition.parse_map hφ d.opcode d.condition) fun c hc => ?_
  have hread := Condition.parse_readFrom d.opcode d.condition
  rw [hc] at hread
  refine bind_renamedOutcome (Condition.holds_renamed hφ hst hread.lettered current)
    fun holds _ => ?_
  exact congrArg Except.ok (d.branch_respelled holds)

end

namespace Respelling
variable (ρ : Respelling) {st : State} (hst : Renaming.Keeps ρ.map st)
include hst

/-- A respelled text has a pass when the text has one, and the pass comes to the same, respelled. -/
theorem pass?_map (current : Scope) (s : List Char) :
    Expansion.pass? st current ρ.after (s.map ρ.map) =
      (Expansion.pass? st current ρ.before s).map
        (renamedOutcome (Fault.renamed ρ.map) (List.map ρ.map)) := by
  rw [Expansion.pass?, ρ.readDirective_renamed.marks_eq, List.isEmpty_map,
    ρ.readDirective_renamed.replaceMarksM_eq
      (fun d => Expansion.choose_respelled ρ.moves hst current d), Expansion.pass?]
  split <;> rfl

theorem run_map (current : Scope) (left done : Nat) (s : List Char) :
    Expansion.run st current ρ.after left done (s.map ρ.map) =
      renamedOutcome (Fault.renamed ρ.map) (List.map ρ.map)
        (Expansion.run st current ρ.before left done s) := by
  -- along the passes that are left; the text that a pass leaves is respelled again
  induction left generalizing done s with
  | zero =>
    rw [Expansion.run, ρ.pass?_map hst, Expansion.run]
    cases Expansion.pass? st current ρ.before s with
    | none => exact congrArg Except.ok (restoreSpans_map ρ.moves s)
    | some next =>
      exact congrArg (fun t => Except.error (Fault.divergence done t))
        (restoreSpans_map ρ.moves s)
  | succ left ih =>
    rw [Expansion.run, ρ.pass?_map hst, Expansion.run]
    cases Expansion.pass? st current ρ.before s with
    | none => exact congrArg Except.ok (restoreSpans_map ρ.moves s)
    | some next =>
      cases next with
      | error fault => rfl
      | ok t => exact ih (done + 1) t

theorem directives_map (current : Scope) (maxPasses : Option Int) (s : List Char) :
    Expansion.directives st current ρ.after maxPasses (s.map ρ.map) =
      renamedOutcome (Fault.renamed ρ.map) (List.map ρ.map)
        (Expansion.directives st current ρ.before maxPasses s) := by
  -- the allowance goes by the length of the text, which is the same
  have hallowance : Expansion.allowance maxPasses (s.map ρ.map) =
      Expansion.allowance maxPasses s := by
    simp only [Expansion.allowance, List.length_map]
  rw [Expansion.directives, hallowance, ρ.guardSpans_map, ρ.run_map hst, Expansion.directives]

end Respelling
end DialogueMarkup
