import DialogueMarkup.Proofs.ConditionText

/-! What reading a condition and deciding it can end with. Reading gives a condition whose self slots
are lettered or numbered and whose names make up all that is unusual in its text, or complains of the
text, or of a numeral in one that is not legible; deciding such a condition finds its names in the
state, or complains of one of its references. -/
namespace DialogueMarkup
open Text

/-- A computation ends in a value with one property, or in a fault with another. -/
def Ends {α : Type} (Q : α → Prop) (P : Fault → Prop) : Except Fault α → Prop
  | .ok a => Q a
  | .error fault => P fault

section
variable {P : Fault → Prop} {α β : Type} {Q : α → Prop} {R : β → Prop}

theorem ends_bind {x : Except Fault α} {g : α → Except Fault β} (hx : Ends Q P x)
    (hg : ∀ a, Q a → Ends R P (g a)) : Ends R P (x >>= g) := by
  cases x with
  | error fault => exact hx
  | ok a => exact hg a hx

theorem ends_mono {P' : Fault → Prop} {Q' : α → Prop} (hQ : ∀ a, Q a → Q' a)
    (hP : ∀ fault, P fault → P' fault) {x : Except Fault α} (hx : Ends Q P x) : Ends Q' P' x := by
  cases x with
  | error fault => exact hP fault hx
  | ok a => exact hQ a hx

end

/-- A fault of reading: a complaint about the whole text read, or about a numeral in it. -/
def Fault.OfReading (text : List Char) (fault : Fault) : Prop :=
  (∃ cause, fault = .malformed cause text) ∨ ∃ numeral, fault = .numeral numeral

/-- A fault of reading a text: a complaint about the whole of it, or about a numeral when it is not
legible. -/
def Fault.OfText (text : List Char) (fault : Fault) : Prop :=
  (∃ cause, fault = .malformed cause text) ∨
    (∃ numeral, fault = .numeral numeral) ∧ ¬ Numeral.Legible text

section
variable {text : List Char} {α : Type} {Q : α → Prop}

theorem Fault.OfText.ofReading {fault : Fault} (h : fault.OfText text) : fault.OfReading text :=
  h.imp_right And.left

theorem ends_malformed (cause : Malformation) :
    Ends Q (Fault.OfText text) (.error (.malformed cause text)) := Or.inl ⟨cause, rfl⟩

theorem ends_numeral {x : Except NumeralFault α} (h : Numeral.Legible text → ∃ a, x = .ok a) :
    Ends (fun _ => True) (Fault.OfText text) (x.mapError Fault.numeral) := by
  cases x with
  | ok a => trivial
  | error fault =>
    refine Or.inr ⟨⟨fault, rfl⟩, fun hl => ?_⟩
    obtain ⟨a, ha⟩ := h hl
    cases ha

end

/-- An operand whose slot, if it is one of a scope, is in normal form. -/
def Operand.Normal : Operand → Prop
  | constant _ => True
  | global _ _ => True
  | self ref => ref.slot.normal = .ok ref.slot

/-- The self references of an operand. -/
def Operand.refs : Operand → List SelfRef
  | constant _ => []
  | global _ _ => []
  | self ref => [ref]

/-- The name of a place that has one. -/
def Place.names : Option Place → List (List Char)
  | some (.name s) => [s]
  | _ => []

/-- The names in the address of a reference. -/
def SelfRef.names (ref : SelfRef) : List (List Char) :=
  Place.names ref.container ++ Place.names ref.context

/-- The letters of the self switches that every host has. -/
def selfLetters : List Char := ['A', 'B', 'C', 'D']

/-- A slot that is named is one of the lettered ones. -/
def SelfRef.Lettered (ref : SelfRef) : Prop :=
  ∀ name, ref.slot = .name name → ∃ c ∈ selfLetters, name = [c]

/-- The names in the addresses of an operand. -/
def Operand.names (operand : Operand) : List (List Char) := operand.refs.flatMap SelfRef.names

/-- An operand as it is read from a text. -/
structure Operand.ReadFrom (text : List Char) (operand : Operand) : Prop where
  lettered : ∀ ref ∈ operand.refs, ref.Lettered
  written : WrittenWith operand.names text

theorem Operand.ReadFrom.normal {text : List Char} {operand : Operand}
    (h : operand.ReadFrom text) : operand.Normal := by
  cases operand with
  | constant n => trivial
  | global kind id => trivial
  | self ref =>
    have hlettered := h.lettered ref (List.mem_singleton_self ref)
    rw [Normal]
    cases hslot : ref.slot with
    | number n => rfl
    | name s =>
      obtain ⟨c, hc, rfl⟩ := hlettered s hslot
      simp only [selfLetters, List.mem_cons, List.not_mem_nil, or_false] at hc
      rcases hc with rfl | rfl | rfl | rfl <;> rfl

namespace Condition

/-- The operands of a condition. -/
def operands : Condition → List Operand
  | switch operand _ => [operand]
  | compare left _ right => [left, right]
  | partySize .. => []
  | member .. => []

/-- A condition whose operands are normal. -/
def Normal (c : Condition) : Prop := ∀ operand ∈ c.operands, operand.Normal

/-- The self references of a condition. -/
def refs (c : Condition) : List SelfRef := c.operands.flatMap Operand.refs

/-- The names in the addresses of a condition. -/
def names (c : Condition) : List (List Char) := c.operands.flatMap Operand.names

/-- A condition as it is read from a text. -/
structure ReadFrom (text : List Char) (c : Condition) : Prop where
  lettered : ∀ ref ∈ c.refs, ref.Lettered
  normal : c.Normal
  written : WrittenWith c.names text

end Condition

theorem Place.parse_ends {s text : List Char} (hs : s <:+: text) :
    Ends (fun p => WrittenWith (Place.names p) s) (Fault.OfText text) (Place.parse s) := by
  have htrim : trim s <:+: text := (trim_isInfix s).trans hs
  unfold Place.parse
  split
  · rename_i hempty
    apply WrittenWith.of_trim
    rw [List.isEmpty_iff.mp hempty]
    intro c hc
    cases hc
  · split
    · rename_i hdigits
      cases hread : Numeral.read (trim s) with
      | error fault =>
        refine Or.inr ⟨⟨fault, rfl⟩, fun hl => ?_⟩
        obtain ⟨n, hn⟩ := hl.read_of_isDigits htrim hdigits
        rw [hn] at hread
        cases hread
      | ok n =>
        apply WrittenWith.of_trim
        have hall := (Bool.and_eq_true_iff.mp hdigits).2
        exact writtenWith_of_ordinary fun c hc =>
          isOrdinary_of_hasDigitValue (List.all_eq_true.mp hall c hc)
    · apply WrittenWith.of_trim
      exact fun c hc => Or.inr ⟨trim s, List.mem_singleton_self _, hc⟩

theorem parseAddress_ends {address : Option (List Char)} {text : List Char}
    (h : ∀ a, address = some a → a <:+: text) :
    Ends (fun r => ∀ a, address = some a → WrittenWith (Place.names r.1 ++ Place.names r.2) a)
      (Fault.OfText text) (parseAddress address text) := by
  match address with
  | none =>
    rintro _ ⟨⟩
  | some address =>
    have htrim : trim address <:+: text := (trim_isInfix address).trans (h address rfl)
    have hsplit := List.takeWhile_append_dropWhile (p := (· != ':')) (l := trim address)
    simp only [parseAddress]
    split
    · refine ends_bind (Place.parse_ends htrim) fun p hp => ?_
      rintro _ ⟨⟩
      exact hp.of_trim
    · rename_i colon context hdrop
      have hcolon : colon = ':' := by
        have hne := List.head_dropWhile_not (p := (· != ':')) (l := trim address) (by simp [hdrop])
        simpa [hdrop] using hne
      have hcontext : context <:+: text :=
        ((List.suffix_cons colon context).trans (hdrop ▸ List.dropWhile_suffix _)).isInfix.trans
          htrim
      split
      · exact ends_malformed .address
      · refine ends_bind (Place.parse_ends ((List.takeWhile_prefix _).isInfix.trans htrim))
          fun p hp => ?_
        refine ends_bind (Place.parse_ends hcontext) fun q hq => ?_
        rintro _ ⟨⟩
        apply WrittenWith.of_trim
        rw [← hsplit, hdrop, hcolon]
        exact (hp.mono (List.subset_append_left _ _)).append
          ((hq.mono (List.subset_append_right _ _)).cons (by decide))

/-- The capital of a letter that names a self switch is one of the four. -/
theorem toUpper_mem_selfLetters {c : Char} (h : isSelfLetter c = true) :
    c.toUpper ∈ selfLetters :=
  of_isSelfLetter (p := fun c => c.toUpper ∈ selfLetters) (by decide) h

theorem Operand.parseSwitch_ends (text : List Char) :
    Ends (Operand.ReadFrom text) (Fault.OfText text) (Operand.parseSwitch text) := by
  dsimp only [Operand.parseSwitch]
  split
  · exact ends_malformed .switchReference
  · rename_i sigil slot address hread
    have hparts := readSwitch_eq_some hread
    have hinside (a : List Char) (ha : address = some a) : a <:+: text :=
      (hparts.address.inside a ha).trans (trim_isInfix text)
    refine ends_bind (parseAddress_ends hinside) ?_
    rintro ⟨container, context⟩ hnames
    -- all of the text but the names in the address is ordinary
    have hwritten (ref : SelfRef) (hcontainer : ref.container = container)
        (hcontext : ref.context = context) : WrittenWith (Operand.self ref).names text := by
      apply WrittenWith.of_trim
      apply hparts.address.written
      simpa [Operand.names, Operand.refs, SelfRef.names, hcontainer, hcontext] using hnames
    cases slot with
    | letter c =>
      refine ⟨?_, hwritten _ rfl rfl⟩
      intro ref hmem name hname
      rw [List.mem_singleton.mp hmem] at hname
      cases hname
      exact ⟨c.toUpper, toUpper_mem_selfLetters (hparts.letter c rfl), rfl⟩
    | digits values =>
      have hvalues : Ends (fun _ => True) (Fault.OfText text)
          ((Numeral.ofDigits false values).mapError Fault.numeral) := by
        obtain ⟨run, hrun, hdecimal, rfl⟩ := hparts.digits values rfl
        exact ends_numeral fun hl => hl.ofDigits (hrun.trans (trim_isInfix text)) hdecimal false
      dsimp only
      split
      · refine ends_bind hvalues fun n _ => ⟨?_, hwritten _ rfl rfl⟩
        intro ref hmem name hname
        rw [List.mem_singleton.mp hmem] at hname
        cases hname
      · split
        · exact ends_malformed .addressOnSwitch
        · rename_i hnone
          refine ends_bind hvalues fun n _ => ⟨fun _ hmem => (List.not_mem_nil hmem).elim, ?_⟩
          apply WrittenWith.of_trim
          apply hparts.address.written
          rintro a rfl
          exact absurd rfl hnone

/-- A token as it is read: only one of a self variable has an address. -/
structure VariableToken.ReadFrom (token : List Char) (t : VariableToken) : Prop where
  plain : t.sigil ≠ .self → t.address = none
  address : Addressed token t.address

section
variable {token text : List Char} {t : VariableToken}

theorem VariableToken.parse_ends (hs : token <:+: text) :
    Ends (VariableToken.ReadFrom token) (Fault.OfText text) (VariableToken.parse token text) := by
  unfold VariableToken.parse
  split
  · exact ends_malformed .variableOperand
  · rename_i sigil negative digits address hread
    obtain ⟨⟨run, hrun, hdecimal, rfl⟩, haddress⟩ := read_eq_some hread
    split
    · exact ends_malformed .addressOnVariable
    · rename_i hplain
      have hlegible : Numeral.Legible text → ∃ n, Numeral.ofDigits negative _ = .ok n :=
        fun hl => hl.ofDigits (hrun.trans hs) hdecimal negative
      have hdigits := ends_numeral hlegible
      refine ends_bind hdigits fun n _ => ⟨fun hself => ?_, haddress⟩
      simpa [hself] using hplain

/-- A token that is no self variable is ordinary. -/
theorem VariableToken.ReadFrom.written (h : t.ReadFrom token) (hself : t.sigil ≠ .self) :
    WrittenWith [] token := by
  apply h.address.written
  rw [h.plain hself]
  rintro a ⟨⟩

theorem VariableToken.operand_ends (h : t.ReadFrom token) (hs : token <:+: text) :
    Ends (Operand.ReadFrom token) (Fault.OfText text) (t.operand text) := by
  dsimp only [VariableToken.operand]
  split
  · exact ends_malformed .negativeVariable
  · split
    · have hinside (a : List Char) (ha : t.address = some a) : a <:+: text :=
        (h.address.inside a ha).trans hs
      refine ends_bind (parseAddress_ends hinside) ?_
      rintro ⟨container, context⟩ hnames
      refine ⟨?_, ?_⟩
      · intro ref hmem name hname
        rw [List.mem_singleton.mp hmem] at hname
        cases hname
      · apply h.address.written
        simpa [Operand.names, Operand.refs, SelfRef.names] using hnames
    · rename_i hself
      exact ⟨fun _ hmem => (List.not_mem_nil hmem).elim, h.written hself⟩

theorem readFrom_constant (h : t.ReadFrom token) (hbare : t.sigil = .bare) (n : Int) :
    (Operand.constant n).ReadFrom token :=
  ⟨fun _ hmem => (List.not_mem_nil hmem).elim, h.written (by simp [hbare])⟩

end

/-- Both operands of a comparison are read from it, and the rest of the text is ordinary. -/
theorem Operand.parseComparison_ends (text : List Char) :
    Ends (fun r => (∀ ref ∈ r.1.refs ++ r.2.2.refs, ref.Lettered) ∧ r.1.Normal ∧ r.2.2.Normal ∧
        WrittenWith (r.1.names ++ r.2.2.names) text)
      (Fault.OfText text) (Operand.parseComparison text) := by
  dsimp only [Operand.parseComparison]
  split
  · exact ends_malformed .variableShape
  · rename_i leftToken op rightToken hsplit
    obtain ⟨hleftIn, hrightIn, hwritten⟩ := splitComparison_eq_some hsplit
    refine ends_bind (VariableToken.parse_ends hleftIn) fun left hleft => ?_
    refine ends_bind (VariableToken.parse_ends hrightIn) fun right hright => ?_
    have hboth {a b : Operand} (ha : a.ReadFrom leftToken) (hb : b.ReadFrom rightToken) :
        (∀ ref ∈ a.refs ++ b.refs, ref.Lettered) ∧ a.Normal ∧ b.Normal ∧
          WrittenWith (a.names ++ b.names) text :=
      ⟨List.forall_mem_append.mpr ⟨ha.lettered, hb.lettered⟩, ha.normal, hb.normal,
        hwritten _ (ha.written.mono (List.subset_append_left _ _))
          (hb.written.mono (List.subset_append_right _ _))⟩
    have hleftSide (b : Operand) (hb : b.ReadFrom rightToken) :
        Ends (fun r => (∀ ref ∈ r.1.refs ++ r.2.2.refs, ref.Lettered) ∧ r.1.Normal ∧
            r.2.2.Normal ∧ WrittenWith (r.1.names ++ r.2.2.names) text) (Fault.OfText text)
          (if left.sigil = .bare ∧ right.sigil ≠ .bare then do
            let a ← pure (.constant left.number)
            pure (a, op, b)
          else do
            let a ← left.operand text
            pure (a, op, b)) := by
      split
      · rename_i hbare
        exact hboth (readFrom_constant hleft hbare.1 left.number) hb
      · exact ends_bind (VariableToken.operand_ends hleft hleftIn) fun a ha => hboth ha hb
    split
    · rename_i hbare
      exact hleftSide _ (readFrom_constant hright hbare right.number)
    · exact ends_bind (VariableToken.operand_ends hright hrightIn) hleftSide

section
variable (text : List Char)

/-- A condition without operands is read from a text that is ordinary. -/
theorem Condition.readFrom_of_operands_eq_nil {text : List Char} {c : Condition}
    (hc : c.operands = []) (h : WrittenWith [] text) : c.ReadFrom text := by
  refine ⟨?_, ?_, ?_⟩
  · simp [Condition.refs, hc]
  · simp [Condition.Normal, hc]
  · simpa [Condition.names, hc] using h

theorem readPartySize_ends (core : Bool) :
    Ends (Condition.ReadFrom text) (Fault.OfText text)
      (match readPartySize? text with
        | none => throw (.malformed .partyShape text)
        | some (op, n) => do return Condition.partySize op (← n.mapError .numeral) core) := by
  split
  · exact ends_malformed .partyShape
  · rename_i hread
    obtain ⟨hn, hwritten⟩ := readPartySize_eq_some hread
    exact ends_bind (ends_numeral hn) fun _ _ =>
      Condition.readFrom_of_operands_eq_nil rfl hwritten

theorem readMember_ends (whom : Whom) :
    Ends (Condition.ReadFrom text) (Fault.OfText text)
      (match readMember? text with
        | none => throw (.malformed .memberShape text)
        | some (word, op, n) =>
          match Attribute.ofBeginning? word with
          | none => throw (.malformed .memberAttribute text)
          | some a => do return Condition.member whom a op (← n.mapError .numeral)) := by
  split
  · exact ends_malformed .memberShape
  · rename_i hread
    obtain ⟨hn, hwritten⟩ := readMember_eq_some hread
    split
    · exact ends_malformed .memberAttribute
    · exact ends_bind (ends_numeral hn) fun _ _ =>
        Condition.readFrom_of_operands_eq_nil rfl hwritten

end

/-- What reading a condition ends with: a condition made of the text, or a complaint about it. -/
theorem Condition.parse_readFrom (opcode : Opcode) (text : List Char) :
    Ends (Condition.ReadFrom text) (Fault.OfText text) (Condition.parse opcode text) := by
  have hswitch (negated : Bool) : Ends (Condition.ReadFrom text) (Fault.OfText text)
      (do return Condition.switch (← Operand.parseSwitch text) negated) := by
    refine ends_bind (Operand.parseSwitch_ends text) fun operand h => ⟨?_, ?_, ?_⟩
    · simpa [Condition.refs, operands] using h.lettered
    · simpa [Condition.Normal, operands] using h.normal
    · simpa [Condition.names, operands] using h.written
  have hcompare : Ends (Condition.ReadFrom text) (Fault.OfText text)
      (do
        let r ← Operand.parseComparison text
        return Condition.compare r.1 r.2.1 r.2.2) := by
    refine ends_bind (Operand.parseComparison_ends text) fun r h => ⟨?_, ?_, ?_⟩
    · simpa [Condition.refs, operands] using h.1
    · simpa [Condition.Normal, operands] using And.intro h.2.1 h.2.2.1
    · simpa [Condition.names, operands] using h.2.2.2
  -- each opcode refuses an empty condition before it reads its own form
  cases opcode <;> dsimp only [Condition.parse] <;> split
  case on.isTrue | off.isTrue | ov.isTrue | ops.isTrue | opc.isTrue | opl.isTrue | opm.isTrue =>
    exact ends_malformed _
  case on.isFalse => exact hswitch false
  case off.isFalse => exact hswitch true
  case ov.isFalse => exact hcompare
  case ops.isFalse => exact readPartySize_ends text false
  case opc.isFalse => exact readPartySize_ends text true
  case opl.isFalse => exact readMember_ends text .leader
  case opm.isFalse => exact readMember_ends text .anyMember

/-- A condition that can be read is normal; one that cannot is malformed, or holds a numeral that
cannot be read. -/
theorem Condition.parse_ends (opcode : Opcode) (text : List Char) :
    Ends Condition.Normal (Fault.OfReading text) (Condition.parse opcode text) :=
  ends_mono (fun _ h => h.normal) (fun _ h => h.ofReading) (parse_readFrom opcode text)

/-- A fault of deciding: the state lacks the capability, or a name that one of the references
holds. -/
def Fault.OfReference (st : State) (refs : List SelfRef) : Fault → Prop
  | .crossContext _ => st.crossContext = false
  | .unresolved .container name _ =>
    st.containers.get? name = none ∧ ∃ ref ∈ refs, ref.container = some (.name name)
  | .unresolved .context name _ =>
    st.contexts.get? name = none ∧ ∃ ref ∈ refs, ref.context = some (.name name)
  | _ => False

/-- The names that a state has ids for. -/
def State.names (st : State) : List (List Char) :=
  st.containers.map Prod.fst ++ st.contexts.map Prod.fst

theorem Table.mem_map_fst_of_get? {κ υ : Type} [DecidableEq κ] {t : Table κ υ} {k : κ} {v : υ}
    (h : t.get? k = some v) : k ∈ t.map Prod.fst := by
  obtain ⟨⟨k', v'⟩, hfind, -⟩ := Option.map_eq_some_iff.mp h
  have hkey : k' = k := by simpa using List.find?_some hfind
  exact List.mem_map.mpr ⟨(k', v'), List.mem_of_find?_eq_some hfind, hkey⟩

section
variable {st : State} {refs : List SelfRef} {ref : SelfRef}

theorem Place.resolve_container_ends {place : Place} (hmem : ref ∈ refs)
    (h : ref.container = some place) :
    Ends (fun _ => ∀ name ∈ Place.names (some place), name ∈ st.names)
      (Fault.OfReference st refs) (place.resolve st.containers .container ref) := by
  cases place with
  | id n => exact fun _ hname => (List.not_mem_nil hname).elim
  | name s =>
    simp only [Place.resolve]
    split
    · rename_i hget
      intro name hname
      rw [List.mem_singleton.mp hname]
      exact List.mem_append_left _ (Table.mem_map_fst_of_get? hget)
    · exact ⟨‹_›, ref, hmem, h⟩

theorem Place.resolve_context_ends {place : Place} (hmem : ref ∈ refs)
    (h : ref.context = some place) :
    Ends (fun _ => ∀ name ∈ Place.names (some place), name ∈ st.names)
      (Fault.OfReference st refs) (place.resolve st.contexts .context ref) := by
  cases place with
  | id n => exact fun _ hname => (List.not_mem_nil hname).elim
  | name s =>
    simp only [Place.resolve]
    split
    · rename_i hget
      intro name hname
      rw [List.mem_singleton.mp hname]
      exact List.mem_append_right _ (Table.mem_map_fst_of_get? hget)
    · exact ⟨‹_›, ref, hmem, h⟩

theorem SelfRef.scope_ends (hmem : ref ∈ refs) (current : Scope) :
    Ends (fun _ => ∀ name ∈ ref.names, name ∈ st.names) (Fault.OfReference st refs)
      (ref.scope st current) := by
  have hcontext (container : Int) {place : Place} (h : ref.context = some place) :
      Ends (fun _ => ∀ name ∈ Place.names ref.context, name ∈ st.names)
        (Fault.OfReference st refs)
        (do
          let context ← some <$> place.resolve st.contexts .context ref
          pure (Scope.mk container context)) := by
    rw [map_eq_pure_bind, bind_assoc, h]
    exact ends_bind (Place.resolve_context_ends hmem h) fun _ hnames => hnames
  have hnone : ∀ name ∈ Place.names none, name ∈ st.names :=
    fun _ hname => (List.not_mem_nil hname).elim
  simp only [SelfRef.names, List.forall_mem_append]
  dsimp only [SelfRef.scope]
  split
  · rename_i hcross
    have hst : st.crossContext = false := by
      simp only [Bool.and_eq_true, Bool.not_eq_true'] at hcross
      exact hcross.2
    exact hst
  · rcases hcont : ref.container with _ | container <;>
      rcases hcon : ref.context with _ | context
    · exact ⟨hnone, hnone⟩
    · exact ends_mono (fun _ hnames => ⟨hnone, hcon ▸ hnames⟩) (fun _ hfault => hfault)
        (hcontext current.container hcon)
    · exact ends_bind (Place.resolve_container_ends hmem hcont) fun _ hnames => ⟨hnames, hnone⟩
    · refine ends_bind (Place.resolve_container_ends hmem hcont) fun id hnames => ?_
      exact ends_mono (fun _ hnames' => ⟨hnames, hcon ▸ hnames'⟩) (fun _ hfault => hfault)
        (hcontext id hcon)

theorem Kind.read_ends (kind : Kind) {P : Fault → Prop} (scope : Option Scope) {slot : Slot}
    (h : slot.normal = .ok slot) : Ends (fun _ => True) P (kind.read st scope slot) := by
  cases kind <;> simp only [Kind.read, State.switch, State.reading, h] <;> trivial

theorem Operand.value_ends {operand : Operand} (h : operand.Normal)
    (hrefs : ∀ ref ∈ operand.refs, ref ∈ refs) (current : Scope) :
    Ends (fun _ => ∀ name ∈ operand.names, name ∈ st.names) (Fault.OfReference st refs)
      (operand.value st current) := by
  cases operand with
  | constant n => exact fun _ hname => (List.not_mem_nil hname).elim
  | global kind id =>
    exact ends_mono (fun _ _ _ hname => (List.not_mem_nil hname).elim) (fun _ hfault => hfault)
      (kind.read_ends none rfl)
  | self ref =>
    refine ends_bind (ref.scope_ends (hrefs ref (List.mem_singleton_self ref)) current)
      fun scope hnames => ?_
    refine ends_mono (fun _ _ => ?_) (fun _ hfault => hfault)
      (ref.kind.read_ends (some scope) h)
    simpa [Operand.names, Operand.refs] using hnames

/-- Deciding a normal condition finds all its names in the state, or fails at one of its
references. -/
theorem Condition.holds_ends {c : Condition} (h : c.Normal) (current : Scope) :
    Ends (fun _ => ∀ name ∈ c.names, name ∈ st.names) (Fault.OfReference st c.refs)
      (c.holds st current) := by
  have hvalue (operand : Operand) (hmem : operand ∈ c.operands) :
      Ends (fun _ => ∀ name ∈ operand.names, name ∈ st.names) (Fault.OfReference st c.refs)
        (operand.value st current) :=
    Operand.value_ends (h operand hmem)
      (fun ref href => List.mem_flatMap.mpr ⟨operand, hmem, href⟩) current
  have hnone : ∀ name ∈ ([] : List (List Char)), name ∈ st.names :=
    fun _ hname => (List.not_mem_nil hname).elim
  cases c with
  | switch operand negated =>
    refine ends_bind (hvalue operand List.mem_cons_self) fun _ hnames => ?_
    have hall : ∀ name ∈ (switch operand negated).names, name ∈ st.names := by
      simpa [names, operands] using hnames
    exact hall
  | compare left op right =>
    refine ends_bind (hvalue left List.mem_cons_self) fun _ hleft => ?_
    refine ends_bind (hvalue right (List.mem_cons_of_mem left List.mem_cons_self))
      fun _ hright => ?_
    have hall : ∀ name ∈ (compare left op right).names, name ∈ st.names := by
      simpa [names, operands, or_imp, forall_and] using And.intro hleft hright
    exact hall
  | partySize op n core => exact hnone
  | member whom what op n => cases whom <;> exact hnone

end

end DialogueMarkup
