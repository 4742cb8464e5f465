import DialogueMarkup.Proofs.Jobs
import DialogueMarkup.Proofs.Numerals
import DialogueMarkup.Proofs.Writes

/-! Overrides of the state from the command line. An item is malformed and leads to one remark, or
it sets one switch or variable; but a key of digits that counts as no number is neither, and ends
the run. -/
namespace DialogueMarkup.Command
open Text Job Console

/-! What an item says. -/

/-- The options whose items override the state. -/
inductive ItemKind
  | switch
  | var
  | selfSwitch

namespace ItemKind

def option : ItemKind → List Char
  | switch => "--switch".toList
  | var => "--variable".toList
  | selfSwitch => "--self-switch".toList

def override : ItemKind → State → List Char → ItemResult
  | switch => overrideSwitch
  | var => overrideVariable
  | selfSwitch => overrideSelf

end ItemKind

/-- An item is a key and a value around its first equals sign, blanks set aside. -/
def Assigns (item key value : List Char) : Prop :=
  ∃ front back, item = front ++ '=' :: back ∧ '=' ∉ front ∧ trim front = key ∧ trim back = value

/-- An item that is passed over, and why. -/
inductive Malformed (item : List Char) : ItemKind → ItemFault → Prop
  | noAssignment (kind : ItemKind) (h : '=' ∉ item) : Malformed item kind .noAssignment
  | noId {key value : List Char} (h : Assigns item key value) (hkey : isDigits key = false) :
    Malformed item .switch .noId
  | noTruth {key value : List Char} (h : Assigns item key value) (hkey : isDigits key = true)
    (hvalue : truth? value = none) : Malformed item .switch .noTruth
  | noInteger {key value : List Char} (h : Assigns item key value)
    (hno : ¬∃ id n, Numeral.read key = .ok id ∧ Numeral.read value = .ok n) :
    Malformed item .var .noInteger
  | noSelfTruth {key value : List Char} (h : Assigns item key value)
    (hvalue : truth? value = none) : Malformed item .selfSwitch .noTruth

/-- An item that sets a switch or a variable; self switches are those of the current scope. -/
inductive Sets (item : List Char) (current : Scope) : ItemKind → Write → Prop
  | switch {key value : List Char} {id : Int} {b : Bool} (h : Assigns item key value)
    (hkey : isDigits key = true) (hid : Numeral.read key = .ok id)
    (hvalue : truth? value = some b) :
    Sets item current .switch (.switch none (.number id) b)
  | var {key value : List Char} {id n : Int} (h : Assigns item key value)
    (hid : Numeral.read key = .ok id) (hvalue : Numeral.read value = .ok n) :
    Sets item current .var (.var none (.number id) n)
  | selfSwitch {key value : List Char} {slot : Slot} {b : Bool} (h : Assigns item key value)
    (hslot : Slot.ofText key = .ok slot) (hvalue : truth? value = some b) :
    Sets item current .selfSwitch (.switch (some current) slot b)

/-- An item whose key is made of digits but counts as no number. -/
inductive Unreadable (item : List Char) : ItemKind → NumeralFault → Prop
  | switch {key value : List Char} {b : Bool} {fault : NumeralFault} (h : Assigns item key value)
    (hkey : isDigits key = true) (hid : Numeral.read key = .error fault)
    (hvalue : truth? value = some b) : Unreadable item .switch fault
  | selfSwitch {key value : List Char} {b : Bool} {fault : NumeralFault}
    (h : Assigns item key value) (hslot : Slot.ofText key = .error fault)
    (hvalue : truth? value = some b) : Unreadable item .selfSwitch fault

section
variable {item key value : List Char} {kind : ItemKind} {st : State}

theorem assignment?_eq_none (h : '=' ∉ item) : assignment? item = none := by
  have hdrop : item.dropWhile (· != '=') = [] := by
    have hplain : ∀ c ∈ item, (c != '=') = true := fun c hc => by
      rw [bne_iff_ne]
      rintro rfl
      exact h hc
    have hend : ∀ c ∈ ([] : List Char).head?, (c != '=') = false := nofun
    simpa using (span_append hplain hend).2
  rw [assignment?, hdrop]

theorem Assigns.assignment?_eq (h : Assigns item key value) :
    assignment? item = some (key, value) := by
  obtain ⟨front, back, rfl, hfront, rfl, rfl⟩ := h
  have hplain : ∀ c ∈ front, (c != '=') = true := fun c hc => by
    rw [bne_iff_ne]
    rintro rfl
    exact hfront hc
  have hend : ∀ c ∈ ('=' :: back).head?, (c != '=') = false := by
    rintro _ ⟨⟩
    rfl
  obtain ⟨htake, hdrop⟩ := span_append hplain hend
  rw [assignment?, hdrop, htake]

theorem Assigns.trim_key (h : Assigns item key value) : trim key = key := by
  obtain ⟨front, back, -, -, rfl, -⟩ := h
  exact trim_trim front

theorem exists_assigns (h : '=' ∈ item) : ∃ key value, Assigns item key value := by
  obtain ⟨front, back, hitem, hfront⟩ := List.eq_append_cons_of_mem h
  exact ⟨_, _, front, back, hitem, hfront, rfl, rfl⟩

theorem override_of_malformed {fault : ItemFault} (st : State) (h : Malformed item kind fault) :
    kind.override st item = .ok (.error fault) := by
  cases h with
  | noAssignment kind h =>
    cases kind <;>
      simp only [ItemKind.override, overrideSwitch, overrideVariable, overrideSelf,
        assignment?_eq_none h]
  | noId h hkey => simp [ItemKind.override, overrideSwitch, h.assignment?_eq, hkey]
  | noTruth h hkey hvalue =>
    simp [ItemKind.override, overrideSwitch, h.assignment?_eq, hkey, hvalue]
  | noInteger h hno =>
    simp only [ItemKind.override, overrideVariable, h.assignment?_eq]
    split
    · next id n hid hn => exact (hno ⟨id, n, hid, hn⟩).elim
    · rfl
  | noSelfTruth h hvalue => simp [ItemKind.override, overrideSelf, h.assignment?_eq, hvalue]

theorem override_of_sets {w : Write} (h : Sets item st.current kind w) :
    kind.override st item = .ok (.ok (st.write w)) := by
  cases h with
  | switch h hkey hid hvalue =>
    simp [ItemKind.override, overrideSwitch, h.assignment?_eq, hkey, hvalue, hid, Except.map,
      State.write]
  | var h hid hvalue =>
    simp [ItemKind.override, overrideVariable, h.assignment?_eq, hvalue, hid, State.write]
  | selfSwitch h hslot hvalue =>
    simp [ItemKind.override, overrideSelf, h.assignment?_eq, hvalue, hslot, Except.map,
      State.write]

theorem override_of_unreadable {fault : NumeralFault} (h : Unreadable item kind fault) :
    kind.override st item = .error fault := by
  cases h with
  | switch h hkey hid hvalue =>
    simp [ItemKind.override, overrideSwitch, h.assignment?_eq, hkey, hvalue, hid, Except.map]
  | selfSwitch h hslot hvalue =>
    simp [ItemKind.override, overrideSelf, h.assignment?_eq, hvalue, hslot, Except.map]

/-- Every item is of one of the three sorts. -/
theorem item_cases (item : List Char) (current : Scope) (kind : ItemKind) :
    (∃ fault, Malformed item kind fault) ∨ (∃ w, Sets item current kind w) ∨
      ∃ fault, Unreadable item kind fault := by
  by_cases hequals : '=' ∈ item
  · obtain ⟨key, value, h⟩ := exists_assigns hequals
    cases kind with
    | switch =>
      cases hkey : isDigits key with
      | false => exact .inl ⟨_, .noId h hkey⟩
      | true =>
        cases hvalue : truth? value with
        | none => exact .inl ⟨_, .noTruth h hkey hvalue⟩
        | some b =>
          cases hid : Numeral.read key with
          | ok id => exact .inr (.inl ⟨_, .switch h hkey hid hvalue⟩)
          | error fault => exact .inr (.inr ⟨_, .switch h hkey hid hvalue⟩)
    | var =>
      by_cases hboth : ∃ id n, Numeral.read key = .ok id ∧ Numeral.read value = .ok n
      · obtain ⟨id, n, hid, hn⟩ := hboth
        exact .inr (.inl ⟨_, .var h hid hn⟩)
      · exact .inl ⟨_, .noInteger h hboth⟩
    | selfSwitch =>
      cases hvalue : truth? value with
      | none => exact .inl ⟨_, .noSelfTruth h hvalue⟩
      | some b =>
        cases hslot : Slot.ofText key with
        | ok slot => exact .inr (.inl ⟨_, .selfSwitch h hslot hvalue⟩)
        | error fault => exact .inr (.inr ⟨_, .selfSwitch h hslot hvalue⟩)
  · exact .inl ⟨_, .noAssignment kind hequals⟩

end

/-! Items in order. -/

/-- Items with the option that each of them follows. -/
abbrev Items := List (ItemKind × List Char)

/-- The items of a line: those of one option after those of another. -/
def itemsOf (switches vars selfSwitches : List (List Char)) : Items :=
  switches.map (ItemKind.switch, ·) ++ vars.map (ItemKind.var, ·) ++
    selfSwitches.map (ItemKind.selfSwitch, ·)

/-- Items taken in order: each leads to one remark, or to one write. -/
inductive Takes (current : Scope) : Items → List Remark → List Write → Prop
  | nil : Takes current [] [] []
  | malformed {kind : ItemKind} {item : List Char} {fault : ItemFault} {items : Items}
    {remarks : List Remark} {log : List Write} (h : Malformed item kind fault)
    (hrest : Takes current items remarks log) :
    Takes current ((kind, item) :: items) (⟨kind.option, item, fault⟩ :: remarks) log
  | sets {kind : ItemKind} {item : List Char} {w : Write} {items : Items}
    {remarks : List Remark} {log : List Write} (h : Sets item current kind w)
    (hrest : Takes current items remarks log) :
    Takes current ((kind, item) :: items) remarks (w :: log)

/-- Takes items of any option. -/
def overrideItems : State × List Remark → Items → Overridden
  | r, [] => (r, none)
  | (st, remarks), (kind, item) :: rest =>
    match kind.override st item with
    | .error fault => ((st, remarks), some (.numeral fault))
    | .ok (.ok st) => overrideItems (st, remarks) rest
    | .ok (.error fault) => overrideItems (st, remarks ++ [⟨kind.option, item, fault⟩]) rest

section
variable {current : Scope} {items : Items} {remarks : List Remark}
  {log : List Write} {st : State} {kind : ItemKind}

theorem overrideItems_append (r : State × List Remark) (items items' : Items) :
    overrideItems r (items ++ items') = match overrideItems r items with
      | (r, some fault) => (r, some fault)
      | (r, none) => overrideItems r items' := by
  induction items generalizing r with
  | nil => rfl
  | cons e items ih =>
    rw [List.cons_append, overrideItems, overrideItems]
    rcases e.1.override r.1 e.2 with fault | fault | st
    · rfl
    · exact ih _
    · exact ih _

theorem override_eq_overrideItems (kind : ItemKind) (r : State × List Remark)
    (texts : List (List Char)) :
    override kind.override kind.option r (texts.map some) =
      overrideItems r (texts.map (kind, ·)) := by
  induction texts generalizing r with
  | nil => rfl
  | cons text texts ih =>
    rw [List.map_cons, List.map_cons, override, overrideItems]
    rcases kind.override r.1 text with fault | fault | st
    · rfl
    · exact ih _
    · exact ih _

theorem overrideAll_eq_overrideItems (st : State) (switches vars selfSwitches : List (List Char)) :
    overrideAll st (switches.map some) (vars.map some) (selfSwitches.map some) =
      overrideItems (st, []) (itemsOf switches vars selfSwitches) := by
  have hself := fun r => override_eq_overrideItems .selfSwitch r selfSwitches
  have hvar := fun r => override_eq_overrideItems .var r vars
  have hswitch := override_eq_overrideItems .switch (st, []) switches
  rw [itemsOf, overrideItems_append, overrideItems_append, ← hswitch]
  unfold overrideAll
  change (match override ItemKind.switch.override ItemKind.switch.option (st, [])
    (switches.map some) with
    | (r, some fault) => (r, some fault)
    | (r, none) => match override ItemKind.var.override ItemKind.var.option r (vars.map some) with
      | (r, some fault) => (r, some fault)
      | (r, none) => override ItemKind.selfSwitch.override ItemKind.selfSwitch.option r
        (selfSwitches.map some)) = _
  rcases override ItemKind.switch.override ItemKind.switch.option (st, []) (switches.map some)
    with ⟨r, _ | fault⟩
  · dsimp only
    rw [← hvar]
    rcases override ItemKind.var.override ItemKind.var.option r (vars.map some)
      with ⟨r', _ | fault⟩
    · exact hself r'
    · rfl
  · rfl

/-- Items that are taken leave what they write and what is remarked on. -/
theorem overrideItems_of_takes (h : Takes current items remarks log) (hst : st.current = current)
    (before : List Remark) :
    overrideItems (st, before) items = ((st.writeAll log, before ++ remarks), none) := by
  induction h generalizing st before with
  | nil => rw [List.append_nil]; rfl
  | malformed h hrest ih =>
    rw [overrideItems, override_of_malformed _ h]
    refine (ih hst _).trans ?_
    rw [List.append_assoc]
    rfl
  | @sets kind item w items remarks log h hrest ih =>
    rw [overrideItems, override_of_sets (hst ▸ h)]
    exact ih ((State.current_writeAll st [w]).trans hst) before

theorem not_unreadable_of_takes (h : Takes st.current items remarks log) :
    ∀ e ∈ items, ∀ fault, ¬Unreadable e.2 e.1 fault := by
  induction h with
  | nil => nofun
  | malformed h hrest ih =>
    refine List.forall_mem_cons.mpr ⟨fun fault hfault => ?_, ih⟩
    have hsame := (override_of_malformed st h).symm.trans (override_of_unreadable hfault)
    cases hsame
  | sets h hrest ih =>
    refine List.forall_mem_cons.mpr ⟨fun fault hfault => ?_, ih⟩
    have hsame := (override_of_sets h).symm.trans (override_of_unreadable hfault)
    cases hsame

/-- All items are taken, or those in front of the first whose key cannot be read. -/
theorem takes_or_unreadable (current : Scope) (items : Items) :
    (∃ remarks log, Takes current items remarks log) ∨
      ∃ before e after fault remarks log, items = before ++ e :: after ∧
        Takes current before remarks log ∧ Unreadable e.2 e.1 fault := by
  induction items with
  | nil => exact .inl ⟨_, _, .nil⟩
  | cons e items ih =>
    rcases item_cases e.2 current e.1 with ⟨fault, hitem⟩ | ⟨w, hitem⟩ | ⟨fault, hitem⟩
    · rcases ih with ⟨remarks, log, h⟩ | ⟨before, e', after, fault', remarks, log, rfl, h, he'⟩
      · exact .inl ⟨_, _, .malformed hitem h⟩
      · exact .inr ⟨e :: before, e', after, fault', _, _, rfl, .malformed hitem h, he'⟩
    · rcases ih with ⟨remarks, log, h⟩ | ⟨before, e', after, fault', remarks, log, rfl, h, he'⟩
      · exact .inl ⟨_, _, .sets hitem h⟩
      · exact .inr ⟨e :: before, e', after, fault', _, _, rfl, .sets hitem h, he'⟩
    · exact .inr ⟨[], e, items, fault, _, _, rfl, .nil, hitem⟩

theorem overrideItems_of_unreadable {before after : Items} {e : ItemKind × List Char}
    {fault : NumeralFault} (h : Takes st.current before remarks log)
    (he : Unreadable e.2 e.1 fault) : overrideItems (st, []) (before ++ e :: after) =
      ((st.writeAll log, remarks), some (.numeral fault)) := by
  rw [overrideItems_append, overrideItems_of_takes h rfl, List.nil_append]
  dsimp only
  rw [overrideItems, override_of_unreadable he]

end

/-- A key of digits that is legible can be read. -/
theorem not_unreadable_of_legible {item : List Char} {kind : ItemKind}
    (h : Numeral.Legible item) (fault : NumeralFault) : ¬Unreadable item kind fault := by
  have hread : ∀ {key value : List Char}, Assigns item key value → isDigits key = true →
      ∃ n, Numeral.read key = .ok n := by
    rintro key value ⟨front, back, rfl, -, rfl, -⟩ hkey
    exact h.read_of_isDigits ((trim_isInfix front).trans (List.prefix_append front _).isInfix) hkey
  rintro hfault
  cases hfault with
  | switch hitem hkey hid hvalue =>
    obtain ⟨n, hn⟩ := hread hitem hkey
    rw [hid] at hn
    cases hn
  | selfSwitch hitem hslot hvalue =>
    rw [Slot.ofText, hitem.trim_key] at hslot
    split at hslot
    · next hkey =>
      obtain ⟨n, hn⟩ := hread hitem hkey
      rw [hn] at hslot
      cases hslot
    · cases hslot

/-! The remarks. -/

/-- The styled text of a remark. -/
def Remark.styled (m : Remark) : List Char :=
  "[warn]⚠ ".toList ++ (("Ignoring malformed ".toList ++ m.option ++ " '".toList) ++
    escape m.item ++ '\'' :: (" (".toList ++ m.fault.wording ++ ")".toList)) ++ "[/]".toList

/-- The line of a remark. -/
def Remark.line (m : Remark) : List Char := (showStyled m.styled).toOption.getD []

theorem Remark.showStyled_styled {m : Remark} (h : ∃ kind : ItemKind, kind.option = m.option) :
    showStyled m.styled = .ok m.line := by
  have hfront : ∀ c ∈ "Ignoring malformed ".toList ++ m.option ++ " '".toList,
      c ≠ '\\' ∧ c ≠ '[' := by
    obtain ⟨kind, hkind⟩ := h
    rw [← hkind]
    cases kind <;> exact forall_mem_of_all (by decide)
  have hback : ∀ c ∈ '\'' :: (" (".toList ++ m.fault.wording ++ ")".toList),
      c ≠ '\\' ∧ isBracket c = false := by
    cases m.fault <;> exact forall_mem_of_all (by decide)
  obtain ⟨shown, hshown⟩ := showStyled_warning hfront hback m.item
  have hstyled : showStyled m.styled = .ok shown := hshown
  rw [line, hstyled]
  rfl

theorem Remark.isPrefix_line {m : Remark} (h : showStyled m.styled = .ok m.line) :
    "⚠ Ignoring malformed ".toList <+: m.line := by
  have hwarn : "[warn]⚠ ".toList = Tag.text ⟨0, "warn".toList⟩ ++ "⚠ ".toList := rfl
  have hwords : "⚠ Ignoring malformed ".toList = "⚠ ".toList ++ "Ignoring malformed ".toList := rfl
  have hshown : showStyled (Tag.text ⟨0, "warn".toList⟩ ++ ("⚠ Ignoring malformed ".toList ++
      (m.option ++ " '".toList ++ escape m.item ++ '\'' ::
        (" (".toList ++ m.fault.wording ++ ")".toList) ++ "[/]".toList))) = .ok m.line := by
    rw [← h]
    unfold styled
    simp only [hwarn, hwords, List.append_assoc]
  exact isPrefix_showStyled isTagBody_warn (forall_mem_of_all (by decide)) hshown

theorem outcome_warn_remark {m : Remark} (h : showStyled m.styled = .ok m.line) (r : Report) :
    outcome (warn ("Ignoring malformed ".toList ++ m.option ++ " '".toList ++ escape m.item ++
      "' (".toList ++ m.fault.wording ++ ")".toList)) r =
        (.ok (), { r with errors := r.errors ++ m.line ++ ['\n'] }) := by
  have hquote : "' (".toList = '\'' :: " (".toList := rfl
  refine outcome_notify ?_
  rw [← h]
  unfold Remark.styled
  simp only [hquote, List.append_assoc, List.cons_append]

/-- What a report says after some remarks. -/
def Report.remarked (r : Report) (remarks : List Remark) : Report :=
  { r with errors := r.errors ++ remarks.flatMap fun m => m.line ++ ['\n'] }

section
variable {o : Options} {st st' : State} {items : Items} {remarks : List Remark} {log : List Write}

theorem showStyled_of_takes {current : Scope} (h : Takes current items remarks log) :
    ∀ m ∈ remarks, showStyled m.styled = .ok m.line := by
  induction h with
  | nil => nofun
  | malformed h hrest ih =>
    exact List.forall_mem_cons.mpr ⟨Remark.showStyled_styled ⟨_, rfl⟩, ih⟩
  | sets h hrest ih => exact ih

theorem outcome_forM_warn (h : ∀ m ∈ remarks, showStyled m.styled = .ok m.line) (r : Report) :
    outcome (remarks.forM fun m => warn ("Ignoring malformed ".toList ++ m.option ++ " '".toList ++
      escape m.item ++ "' (".toList ++ m.fault.wording ++ ")".toList)) r =
        (.ok (), r.remarked remarks) :=
  outcome_forM (fun m hm r => outcome_warn_remark (h m hm) r) r

/-- How taking items ends. -/
def endOf (st : State) : Option OverrideFault → Except Stop State
  | some (.numeral fault) => .error (.crash (.numeral fault))
  | some .noItem => .error (.crash .noText)
  | none => .ok st

/-- The remarks are printed before the run goes on with the state or ends at a key. -/
theorem outcome_applyOverrides {fault? : Option OverrideFault}
    (hall : overrideAll st o.switches o.vars o.selfSwitches = ((st', remarks), fault?))
    (hremarks : ∀ m ∈ remarks, showStyled m.styled = .ok m.line) (r : Report) :
    outcome (applyOverrides o st) r = (endOf st' fault?, r.remarked remarks) := by
  unfold applyOverrides
  rw [hall]
  dsimp only
  rw [outcome_bind_of_ok (outcome_forM_warn hremarks r)]
  rcases fault? with _ | _ | _ <;> rfl

variable {switches vars selfSwitches : List (List Char)}
  (hswitches : o.switches = switches.map some) (hvars : o.vars = vars.map some)
  (hselfSwitches : o.selfSwitches = selfSwitches.map some)
include hswitches hvars hselfSwitches

/-- The overrides of a line. Each item is malformed and leads to one line of warning and no write,
or it sets the switch or the variable that it names and leads to no warning; what is read then is
what the last item for that slot says, and the state's own value when there is none. But an item
whose key is made of digits that count as no number ends the run, after the warnings on the items in
front of it. Legible items have no such key. -/
theorem applyOverrides_items (st : State) (r : Report) :
    ((∀ e ∈ itemsOf switches vars selfSwitches, ∀ fault, ¬Unreadable e.2 e.1 fault) →
      ∃ remarks log, Takes st.current (itemsOf switches vars selfSwitches) remarks log ∧
        outcome (applyOverrides o st) r = (.ok (st.writeAll log), r.remarked remarks) ∧
        (∀ m ∈ remarks, showStyled m.styled = .ok m.line ∧
          "⚠ Ignoring malformed ".toList <+: m.line) ∧
        (∀ scope slot, (st.writeAll log).switch scope slot = slot.normal.map fun key =>
          (Write.lastSwitch scope key log).getD (st.switchAt scope key)) ∧
        (∀ scope slot, (st.writeAll log).reading scope slot = slot.normal.map fun key =>
          (Write.lastVar scope key log).getD (st.variableAt scope key)) ∧
        (st.writeAll log).cleared = st.cleared) ∧
    ((∃ e ∈ itemsOf switches vars selfSwitches, ∃ fault, Unreadable e.2 e.1 fault) →
      ∃ before e after fault remarks log,
        itemsOf switches vars selfSwitches = before ++ e :: after ∧
        Takes st.current before remarks log ∧ Unreadable e.2 e.1 fault ∧
        outcome (applyOverrides o st) r =
          (.error (.crash (.numeral fault)), r.remarked remarks)) ∧
    ∀ e ∈ itemsOf switches vars selfSwitches, Numeral.Legible e.2 →
      ∀ fault, ¬Unreadable e.2 e.1 fault := by
  have hall : overrideAll st o.switches o.vars o.selfSwitches =
      overrideItems (st, []) (itemsOf switches vars selfSwitches) := by
    rw [hswitches, hvars, hselfSwitches, overrideAll_eq_overrideItems]
  refine ⟨fun hreadable => ?_, ?_, fun e _ hlegible => not_unreadable_of_legible hlegible⟩
  -- either all items are taken, or there is a first one that cannot be read
  · rcases takes_or_unreadable st.current (itemsOf switches vars selfSwitches) with
      ⟨remarks, log, h⟩ | ⟨before, e, after, fault, remarks, log, hitems, -, he⟩
    · rw [overrideItems_of_takes h rfl, List.nil_append] at hall
      have hshown := showStyled_of_takes h
      refine ⟨remarks, log, h, outcome_applyOverrides hall hshown r,
        fun m hm => ⟨hshown m hm, Remark.isPrefix_line (hshown m hm)⟩, fun scope slot => ?_,
        fun scope slot => ?_, State.cleared_writeAll st log⟩
      · rw [State.switch]
        congr 1
        funext key
        exact State.switchAt_writeAll st log scope key
      · rw [State.reading]
        congr 1
        funext key
        exact State.variableAt_writeAll st log scope key
    · exact (hreadable e (by rw [hitems]; simp) fault he).elim
  · rintro ⟨e, he, fault, hfault⟩
    rcases takes_or_unreadable st.current (itemsOf switches vars selfSwitches) with
      ⟨remarks, log, h⟩ | ⟨before, e', after, fault', remarks, log, hitems, h, he'⟩
    · exact (not_unreadable_of_takes h e he fault hfault).elim
    · rw [hitems, overrideItems_of_unreadable h he'] at hall
      exact ⟨before, e', after, fault', remarks, log, hitems, h, he',
        outcome_applyOverrides hall (showStyled_of_takes h) r⟩

end

/-! A line with four items, the second of which is no assignment. -/

def mixedOptions : Options where
  switches := [some "3=on".toList, some ['x']]
  vars := [some "2 = 5".toList]
  selfSwitches := [some "a=Yes".toList]

def mixedItems : Items := itemsOf ["3=on".toList, ['x']] ["2 = 5".toList] ["a=Yes".toList]

def mixedState : State where
  switches := [(.number 3, true)]
  vars := [(.number 2, 5)]
  selfSwitches := [((⟨1, none⟩, .name ['A']), true)]

theorem applyOverrides_items_mixed : outcome (applyOverrides mixedOptions {}) {} =
    (.ok mixedState, ({} : Report).remarked [⟨"--switch".toList, ['x'], .noAssignment⟩]) := by
  have hswitches : mixedOptions.switches = ["3=on".toList, ['x']].map some := rfl
  have hvars : mixedOptions.vars = ["2 = 5".toList].map some := rfl
  have hselfSwitches : mixedOptions.selfSwitches = ["a=Yes".toList].map some := rfl
  obtain ⟨htaken, -, hreadable⟩ := applyOverrides_items hswitches hvars hselfSwitches {} {}
  have hlegible : ∀ e ∈ mixedItems, Numeral.Legible e.2 := by
    have hdigits : ∀ e ∈ mixedItems, e.2.all (fun c => !hasDigitValue c || isDecimal c) = true :=
      forall_mem_of_all (by decide +kernel)
    have hlength : ∀ e ∈ mixedItems, e.2.length ≤ Numeral.maxDigits :=
      forall_mem_of_all (by decide +kernel)
    refine fun e he => ⟨fun c hc hdigit => ?_, fun run hrun _ =>
      Nat.le_trans hrun.length_le (hlength e he)⟩
    simpa [hdigit] using List.all_eq_true.mp (hdigits e he) c hc
  obtain ⟨remarks, log, htakes, houtcome, -⟩ :=
    htaken fun e he => hreadable e he (hlegible e he)
  have hitems : overrideItems ({}, []) mixedItems =
      ((mixedState, [⟨"--switch".toList, ['x'], .noAssignment⟩]), none) := by decide +kernel
  have hsame := hitems.symm.trans (overrideItems_of_takes htakes rfl [])
  obtain ⟨hpair, -⟩ := Prod.mk.inj hsame
  obtain ⟨hstate, hremarks⟩ := Prod.mk.inj hpair
  rw [List.nil_append] at hremarks
  rw [houtcome, hstate, hremarks]

/-- A superscript two is a digit, but counts in no numeral. -/
theorem not_applyOverrides_items :
    ¬∀ items : List (List Char), ∃ st r,
      outcome (applyOverrides { switches := items.map some } {}) {} = (.ok st, r) := by
  intro h
  obtain ⟨st, r, hok⟩ := h ["²=on".toList]
  have hall : overrideAll {} ["²=on".toList |> some] [] [] =
      ((({} : State), []), some (.numeral (.malformed ['²']))) := by decide +kernel
  have hcrash := outcome_applyOverrides (o := { switches := [some "²=on".toList] }) hall nofun {}
  rw [List.map_singleton, hcrash] at hok
  cases hok

end DialogueMarkup.Command
