import DialogueMarkup.Proofs.Jobs
import DialogueMarkup.Proofs.UnreadableTiers

/-! State files that cannot be read. -/
namespace DialogueMarkup
open Document Text Files

/-! Faults of a computation on data. -/

/-- Every fault that a computation can end in has a property. -/
def FailsIn {α : Type} (P : DataFault → Prop) (x : Except DataFault α) : Prop :=
  ∀ fault, x = .error fault → P fault

namespace FailsIn
variable {α β : Type} {P : DataFault → Prop} {x : Except DataFault α}

theorem ok (a : α) : FailsIn P (.ok a) := nofun

theorem error {fault : DataFault} (h : P fault) :
    FailsIn P (.error fault : Except DataFault α) := by
  rintro _ ⟨⟩
  exact h

theorem bind {g : α → Except DataFault β} (hx : FailsIn P x)
    (hg : ∀ a, x = .ok a → FailsIn P (g a)) : FailsIn P (x >>= g) := by
  cases x with
  | error fault => exact error (hx fault rfl)
  | ok a => exact hg a rfl

theorem map (hx : FailsIn P x) (g : α → β) : FailsIn P (x.map g) :=
  fun fault h => hx fault (map_eq_error h)

theorem mapError {ε : Type} {y : Except ε α} {g : ε → DataFault} (h : ∀ e, P (g e)) :
    FailsIn P (y.mapError g) := by
  cases y with
  | ok a => exact ok a
  | error e => exact error (h e)

theorem mapM {f : α → Except DataFault β} {l : List α} (h : ∀ a ∈ l, FailsIn P (f a)) :
    FailsIn P (l.mapM f) := by
  induction l with
  | nil => exact ok []
  | cons a l ih =>
    obtain ⟨ha, hl⟩ := List.forall_mem_cons.mp h
    rw [List.mapM_cons]
    exact ha.bind fun _ _ => (ih hl).bind fun _ _ => ok _

theorem foldlM {f : β → α → Except DataFault β} {l : List α}
    (h : ∀ b, ∀ a ∈ l, FailsIn P (f b a)) (b : β) : FailsIn P (l.foldlM f b) := by
  induction l generalizing b with
  | nil => exact ok b
  | cons a l ih =>
    rw [List.foldlM_cons]
    exact (h b a List.mem_cons_self).bind fun b' _ =>
      ih (fun b c hc => h b c (List.mem_cons_of_mem a hc)) b'

end FailsIn

/-! What stands where in a document. -/

namespace Document

/-- A value stands somewhere in a document. -/
inductive Within (v : Document) : Document → Prop
  | self : Within v v
  | item {items : List Document} {w : Document} (hw : w ∈ items) (h : Within v w) :
    Within v (.list items)
  | key {fields : List (Document × Document)} {f : Document × Document} (hf : f ∈ fields)
    (h : Within v f.1) : Within v (.object fields)
  | value {fields : List (Document × Document)} {f : Document × Document} (hf : f ∈ fields)
    (h : Within v f.2) : Within v (.object fields)

/-- No infinite number stands in a document. -/
def Bounded (v : Document) : Prop := ∀ negative, ¬(real (.infinite negative)).Within v

def IsObject (v : Document) : Prop := ∃ fields, v = object fields

section
variable {v : Document} {items : List Document} {fields : List (Document × Document)}

theorem Bounded.of_mem_items (h : v.Bounded) (hitems : v.toItems = .ok items) :
    ∀ w ∈ items, w.Bounded := by
  have hcharacter : ∀ n, (ofCodes [n]).Bounded := by
    intro n negative hw
    rw [ofCodes] at hw
    split at hw <;> cases hw
  cases v with
  | list items => cases hitems; exact fun w hw negative hin => h negative (.item hw hin)
  | object fields =>
    cases hitems
    intro w hw negative hin
    obtain ⟨f, hf, rfl⟩ := List.mem_map.mp hw
    exact h negative (.key hf hin)
  | text s =>
    cases hitems
    intro w hw negative hin
    obtain ⟨c, -, rfl⟩ := List.mem_map.mp hw
    cases hin
  | codes points =>
    cases hitems
    intro w hw
    obtain ⟨n, -, rfl⟩ := List.mem_map.mp hw
    exact hcharacter n
  | null | bool _ | int _ | real _ | moment _ => cases hitems

theorem bounded_object (h : ∀ f ∈ fields, f.1.Bounded ∧ f.2.Bounded) :
    (object fields).Bounded := by
  intro negative hin
  cases hin with
  | key hf hin => exact (h _ hf).1 negative hin
  | value hf hin => exact (h _ hf).2 negative hin

theorem Bounded.of_mem_fields (h : (object fields).Bounded) :
    ∀ f ∈ fields, f.1.Bounded ∧ f.2.Bounded :=
  fun _ hf => ⟨fun negative hin => h negative (.key hf hin),
    fun negative hin => h negative (.value hf hin)⟩

theorem exists_of_fieldOf? {name : List Char} (h : fieldOf? fields name = some v) :
    ∃ f ∈ fields, f.2 = v := by
  obtain ⟨f, hf, rfl⟩ := Option.map_eq_some_iff.mp h
  exact ⟨f, List.mem_of_find?_eq_some hf, rfl⟩

end
end Document

/-! Loading a state. -/

namespace State

/-- The sections of a state that are there are of the right kind: objects, or lists of objects. -/
structure Shaped (fields : List (Document × Document)) : Prop where
  sections : ∀ name ∈ ["current", "switches", "variables", "containers", "contexts"],
    ∀ v ∈ section? fields name, v.IsObject
  entries : ∀ name ∈ ["party", "self_switches", "self_variables"],
    ∀ v ∈ section? fields name, ∀ items, v.toItems = .ok items → ∀ w ∈ items, w.IsObject

/-- A document holds no infinite number, unless the fault that such a number leads to counts. -/
def Tame (P : DataFault → Prop) (v : Document) : Prop := P .infiniteReal ∨ v.Bounded

section
variable {P : DataFault → Prop} {v : Document} {fields : List (Document × Document)}

theorem tame_int (n : Int) : Tame P (int n) := .inr (by rintro _ ⟨⟩)

theorem tame_null : Tame P null := .inr (by rintro _ ⟨⟩)

theorem tame_empty : Tame P (object []) := .inr (bounded_object (by simp))

theorem tame_of_mem_fields (h : Tame P (object fields)) : ∀ f ∈ fields, Tame P f.1 ∧ Tame P f.2 :=
  fun f hf => ⟨h.imp_right fun h => (h.of_mem_fields f hf).1,
    h.imp_right fun h => (h.of_mem_fields f hf).2⟩

theorem tame_of_mem_items {items : List Document} (h : Tame P v) (hitems : v.toItems = .ok items) :
    ∀ w ∈ items, Tame P w :=
  fun w hw => h.imp_right fun h => h.of_mem_items hitems w hw

theorem tame_fieldOf? {name : List Char} (h : Tame P (object fields))
    (hv : fieldOf? fields name = some v) : Tame P v := by
  obtain ⟨f, hf, rfl⟩ := exists_of_fieldOf? hv
  exact (tame_of_mem_fields h f hf).2

theorem tame_field (h : Tame P (object fields)) (name : String) {absent : Document}
    (habsent : Tame P absent) : Tame P ((fieldOf? fields name.toList).getD absent) := by
  cases hfield : fieldOf? fields name.toList with
  | none => exact habsent
  | some v => exact tame_fieldOf? h hfield

theorem tame_section? {name : String} (h : Tame P (object fields))
    (hv : section? fields name = some v) : Tame P v :=
  tame_fieldOf? h (Option.filter_eq_some_iff.mp hv).1

theorem eq_object_of_toFields (h : v.toFields = .ok fields) : v = object fields := by
  cases v <;> cases h
  rfl

theorem failsIn_toFields (h : P .noFields ∨ v.IsObject) : FailsIn P v.toFields := by
  rcases h with h | ⟨fields, rfl⟩
  · cases v with
    | object fields => exact .ok fields
    | _ => exact .error h
  · exact .ok fields

theorem failsIn_mapSection {name : String}
    (h : P .noFields ∨ ∀ v ∈ section? fields name, v.IsObject) :
    FailsIn P (mapSection fields name) := by
  rw [mapSection]
  cases hv : section? fields name with
  | none => exact .ok []
  | some v => exact failsIn_toFields (h.imp_right fun h => h v hv)

theorem tame_mapSection {name : String} {entries : List (Document × Document)}
    (h : Tame P (object fields)) (hentries : mapSection fields name = .ok entries) :
    Tame P (object entries) := by
  rw [mapSection] at hentries
  cases hv : section? fields name with
  | none =>
    rw [hv] at hentries
    cases hentries
    exact tame_empty
  | some v =>
    rw [hv] at hentries
    have hobject : v = object entries := eq_object_of_toFields hentries
    exact hobject ▸ tame_section? h hv

variable (hP : ∀ fault, Command.isReported fault → P fault)
include hP

theorem failsIn_toItems (v : Document) : FailsIn P v.toItems := by
  cases v with
  | list _ | text _ | codes _ | object _ => exact .ok _
  | _ => exact .error (hP _ rfl)

theorem failsIn_toInt (h : Tame P v) : FailsIn P v.toInt := by
  cases v with
  | bool _ | int _ => exact .ok _
  | text s => exact .mapError fun _ => hP _ rfl
  | real x =>
    cases x with
    | finite negative significand exponent => exact .ok _
    | undefined => exact .error (hP _ rfl)
    | infinite negative => exact .error (h.resolve_right fun hv => hv negative .self)
  | _ => exact .error (hP _ rfl)

theorem failsIn_toInt? (h : Tame P v) : FailsIn P v.toInt? := by
  cases v with
  | null => exact .ok none
  | _ => exact (failsIn_toInt hP h).map some

theorem failsIn_slot (h : Tame P v) : FailsIn P (Slot.ofDocument v) := by
  cases v with
  | text s => exact .mapError fun _ => hP _ rfl
  | codes points => exact .ok _
  | _ => exact (failsIn_toInt hP h).map Slot.number

theorem failsIn_loadMember (hv : Tame P v) (hobject : P .noFields ∨ v.IsObject) :
    FailsIn P (loadMember v) := by
  have hlist : Tame P (list []) := .inr (by
    rintro negative h
    cases h with
    | item hw => cases hw)
  refine (failsIn_toFields hobject).bind fun fields hfields => ?_
  rw [eq_object_of_toFields hfields] at hv
  refine (failsIn_toInt hP (tame_field hv "actor" (tame_int 0))).bind fun actor _ => ?_
  refine (failsIn_toInt hP (tame_field hv "class" (tame_int 0))).bind fun role _ => ?_
  refine (failsIn_toItems hP _).bind fun states hitems => ?_
  have hstates := tame_of_mem_items (tame_field hv "states" hlist) hitems
  exact FailsIn.bind (.mapM fun w hw => failsIn_toInt hP (hstates w hw)) fun _ _ => .ok _

theorem failsIn_loadGlobals {υ : Type} {cast : Document → Except DataFault υ}
    (hcast : ∀ v, Tame P v → FailsIn P (cast v)) (h : Tame P (object fields)) :
    FailsIn P (loadGlobals cast fields) := by
  refine .foldlM (fun t f hf => ?_) []
  obtain ⟨hkey, hvalue⟩ := tame_of_mem_fields h f hf
  exact (failsIn_toInt hP hkey).bind fun id _ => (hcast _ hvalue).bind fun _ _ => .ok _

theorem failsIn_loadSelf {υ : Type} {cast : Document → Except DataFault υ} {here : Document}
    (hcast : ∀ v, Tame P v → FailsIn P (cast v)) (hhere : Tame P here)
    (hobject : P .noFields ∨ here.IsObject) (hv : Tame P v) (hentry : P .noFields ∨ v.IsObject)
    (t : Table (Scope × Slot) υ) : FailsIn P (loadSelf cast here t v) := by
  refine (failsIn_toFields hentry).bind fun fields hfields => ?_
  rw [eq_object_of_toFields hfields] at hv
  refine (failsIn_toFields hobject).bind fun current hcurrent => ?_
  rw [eq_object_of_toFields hcurrent] at hhere
  have hcontainer := tame_field hhere "container" (tame_int 1)
  have hcontext := tame_field hhere "context" tame_null
  refine (failsIn_toInt hP (tame_field hv "container" hcontainer)).bind fun container _ => ?_
  refine (failsIn_toInt? hP (tame_field hv "context" hcontext)).bind fun context _ => ?_
  cases hslot : fieldOf? fields "slot".toList with
  | none => exact .error (hP _ rfl)
  | some slot =>
    refine (failsIn_slot hP (tame_fieldOf? hv hslot)).bind fun slot _ => ?_
    exact (hcast _ (tame_field hv "value" (tame_int 0))).bind fun _ _ => .ok _

theorem failsIn_loadNames (h : Tame P (object fields)) : FailsIn P (loadNames fields) :=
  .foldlM (fun _ f hf => (failsIn_toInt hP (tame_of_mem_fields h f hf).2).bind fun _ _ => .ok _) []

/-- The items of a section of entries, each of which is loaded. -/
theorem failsIn_listSection {υ : Type} {name : String} (h : Tame P (object fields))
    (hentries : P .noFields ∨
      ∀ v ∈ section? fields name, ∀ items, v.toItems = .ok items → ∀ w ∈ items, w.IsObject)
    {g : List Document → Except DataFault υ}
    (hg : ∀ items, (∀ w ∈ items, Tame P w ∧ (P .noFields ∨ w.IsObject)) → FailsIn P (g items)) :
    FailsIn P (listSection fields name >>= g) := by
  rw [listSection]
  cases hv : section? fields name with
  | none => exact hg [] (by simp)
  | some v =>
    refine (failsIn_toItems hP v).bind fun items hitems => hg items fun w hw => ?_
    exact ⟨tame_of_mem_items (tame_section? h hv) hitems w hw,
      hentries.imp_right fun hentries => hentries v hv items hitems w hw⟩

/-- Loading a state ends in a fault that is reported, unless a section is of the wrong kind or a
number is infinite. -/
theorem failsIn_ofDocument (h : Tame P (object fields)) (hshaped : P .noFields ∨ Shaped fields) :
    FailsIn P (State.ofDocument (object fields)) := by
  -- what is said of all sections, for each of them by its name
  have hsection : ∀ name ∈ ["current", "switches", "variables", "containers", "contexts"],
      P .noFields ∨ ∀ v ∈ section? fields name, v.IsObject :=
    fun name hname => hshaped.imp_right fun h => h.sections name hname
  have hentries : ∀ name ∈ ["party", "self_switches", "self_variables"], P .noFields ∨
      ∀ v ∈ section? fields name, ∀ items, v.toItems = .ok items → ∀ w ∈ items, w.IsObject :=
    fun name hname => hshaped.imp_right fun h => h.entries name hname
  have hhere : Tame P ((section? fields "current").getD (object [])) ∧
      (P .noFields ∨ ((section? fields "current").getD (object [])).IsObject) := by
    cases hv : section? fields "current" with
    | none => exact ⟨tame_empty, .inr ⟨[], rfl⟩⟩
    | some v =>
      exact ⟨tame_section? h hv, (hsection "current" (by simp)).imp_right fun h => h v hv⟩
  have htruth : ∀ v, Tame P v → FailsIn P (Except.ok v.truth) := fun _ _ => .ok _
  have hint : ∀ v, Tame P v → FailsIn P v.toInt := fun _ => failsIn_toInt hP
  refine FailsIn.bind (.ok fields) fun _ hfields => ?_
  cases hfields
  refine failsIn_listSection hP h (hentries "party" (by simp)) fun members hmembers => ?_
  refine FailsIn.bind (.mapM fun v hv => failsIn_loadMember hP (hmembers v hv).1 (hmembers v hv).2)
    fun party _ => ?_
  refine (failsIn_mapSection (hsection "switches" (by simp))).bind fun entries hentry => ?_
  refine (failsIn_loadGlobals hP htruth (tame_mapSection h hentry)).bind fun switches _ => ?_
  refine (failsIn_mapSection (hsection "variables" (by simp))).bind fun entries hentry => ?_
  refine (failsIn_loadGlobals hP hint (tame_mapSection h hentry)).bind fun vars _ => ?_
  refine failsIn_listSection hP h (hentries "self_switches" (by simp)) fun slots hslots => ?_
  refine FailsIn.bind (.foldlM (fun t v hv => failsIn_loadSelf hP htruth hhere.1 hhere.2
    (hslots v hv).1 (hslots v hv).2 t) []) fun selfSwitches _ => ?_
  refine failsIn_listSection hP h (hentries "self_variables" (by simp)) fun slots hslots => ?_
  refine FailsIn.bind (.foldlM (fun t v hv => failsIn_loadSelf hP hint hhere.1 hhere.2
    (hslots v hv).1 (hslots v hv).2 t) []) fun selfVars _ => ?_
  refine (failsIn_toInt? hP (tame_field h "core_party_size" tame_null)).bind fun coreSize? _ => ?_
  refine (failsIn_toFields hhere.2).bind fun current hcurrent => ?_
  have hscope := eq_object_of_toFields hcurrent ▸ hhere.1
  refine (failsIn_toInt hP (tame_field hscope "container" (tame_int 1))).bind fun container _ => ?_
  refine (failsIn_toInt? hP (tame_field hscope "context" tame_null)).bind fun context _ => ?_
  refine (failsIn_mapSection (hsection "containers" (by simp))).bind fun entries hentry => ?_
  refine (failsIn_loadNames hP (tame_mapSection h hentry)).bind fun containers _ => ?_
  refine (failsIn_mapSection (hsection "contexts" (by simp))).bind fun entries hentry => ?_
  exact (failsIn_loadNames hP (tame_mapSection h hentry)).bind fun contexts _ => .ok _

end
end State

/-! State files in JSON. -/

/-- Octets whose faults are all reported: no document in them is nested too deeply, and the sections
of an object are of the right kind and hold no infinite number. -/
structure RegularStateFile (depth : Nat) (octets : List UInt8) : Prop where
  nesting : readJson depth octets ≠ .error .tooDeep
  shape : ∀ fields, readJson depth octets = .ok (.object fields) → State.Shaped fields
  bounded : ∀ fields, readJson depth octets = .ok (.object fields) → (object fields).Bounded

section
variable {n : Nesting} {p : Path} {octets : List UInt8}

theorem State.ofFile_json (h : isYaml p = false) :
    State.ofFile p octets n = (do
      match ← readJson n.json octets with
      | .object fields => State.ofDocument (.object fields)
      | _ => return {}) := by
  rw [State.ofFile, readFile, readJson]
  simp only [h]
  rfl

theorem failsIn_readJson {P : DataFault → Prop} {depth : Nat}
    (hP : ∀ fault, Command.isReported fault → P fault)
    (hdepth : P .tooDeep ∨ readJson depth octets ≠ .error .tooDeep) :
    FailsIn P (readJson depth octets) := by
  intro fault h
  rcases refuses_of_readJson h with rfl | hrefuses
  · exact hP _ rfl
  · cases hrefuses with
    | noDocument => exact hP _ rfl
    | tooDeep => exact hdepth.resolve_right fun hne => hne h
    | numeral cause => exact hP _ rfl

theorem failsIn_ofFile {P : DataFault → Prop} (hP : ∀ fault, Command.isReported fault → P fault)
    (hjson : isYaml p = false) (hdepth : P .tooDeep ∨ readJson n.json octets ≠ .error .tooDeep)
    (hshape : P .noFields ∨
      ∀ fields, readJson n.json octets = .ok (.object fields) → State.Shaped fields)
    (hbounded : P .infiniteReal ∨
      ∀ fields, readJson n.json octets = .ok (.object fields) → (object fields).Bounded) :
    FailsIn P (State.ofFile p octets n) := by
  rw [State.ofFile_json hjson]
  refine (failsIn_readJson hP hdepth).bind fun v hv => ?_
  cases v with
  | object fields =>
    exact State.failsIn_ofDocument hP (hbounded.imp_right fun h => h fields hv)
      (hshape.imp_right fun h => h fields hv)
  | _ => exact .ok _

end

namespace Command
open Job Console

/-- The three faults of a state file that are not reported. -/
def IsUnreported (fault : DataFault) : Prop :=
  fault = .noFields ∨ fault = .tooDeep ∨ fault = .infiniteReal

section
variable {w : World} {o : Options} {p : Path} {octets : List UInt8} {argv : List (List Char)}

/-- The complaint about a state file. -/
def invalidState (p : Path) (fault : DataFault) : List Char :=
  fileComplaint "Invalid state file ".toList p.text fault.message

theorem outcome_loadState (hstate : o.state = some (some p))
    (hread : w.tree.read w.folder p = .ok octets) (r : Report) :
    outcome (loadState w o) r = match State.ofFile p octets w.stateNesting with
      | .ok st => (.ok st, r)
      | .error fault =>
        if isReported fault then
          outcome (do
            notify (invalidState p fault)
            exit 1) r
        else (.error (.crash (.data fault)), r) := by
  rw [loadState_of_read hstate hread]
  cases State.ofFile p octets w.stateNesting with
  | ok st => rfl
  | error fault =>
    dsimp only
    split <;> rfl

theorem Begun.run_of_loadState (hparse : Options.parse argv = .ok o) (b : Begun w o) {stop : Stop}
    {report : Report} (h : outcome (loadState w o) b.report = (.error stop, report)) :
    run w argv = ⟨stop, report⟩ := by
  rw [run_eq hparse, b.outcome_perform, outcome_bind_of_error h]

/-- A text that opens with more brackets than may nest ends the run without a message. -/
theorem Begun.run_of_nest (hparse : Options.parse argv = .ok o) (b : Begun w o)
    (hstate : o.state = some (some p)) (hread : w.tree.read w.folder p = .ok octets)
    (hjson : isYaml p = false) {m : Nat} {s : List Char} (hm : w.stateNesting.json < m)
    (hoctets : octets = Utf8.encode (List.replicate m '[' ++ s)) :
    run w argv = ⟨.crash (.data .tooDeep), b.report⟩ := by
  have hfile : State.ofFile p octets w.stateNesting = .error .tooDeep := by
    rw [State.ofFile_json hjson, hoctets, readJson_nest hm]
    rfl
  have hload := outcome_loadState hstate hread b.report
  rw [hfile] at hload
  exact b.run_of_loadState hparse hload

theorem isPrefix_invalidState {fault : DataFault} {shown : List Char}
    (h : showStyled (invalidState p fault) = .ok shown) :
    "✖ Invalid state file ".toList <+: shown := by
  have hwords : ∀ c ∈ "✖ ".toList ++ "Invalid state file ".toList, showsItself c = true :=
    forall_mem_of_all (by decide)
  exact isPrefix_fileComplaint hwords h

theorem mem_of_invalidState_error {fault : DataFault} {cause : StyleFault}
    (h : showStyled (invalidState p fault) = .error cause) : '[' ∈ p.text := by
  refine Decidable.byContradiction fun hpath => ?_
  have hwords : ∀ c ∈ "✖ ".toList ++ "Invalid state file ".toList, c ≠ '\\' ∧ c ≠ '[' :=
    forall_mem_of_all (by decide)
  obtain ⟨shown, hshown⟩ := showStyled_fileComplaint hpath hwords fault.message
  rw [invalidState, hshown] at h
  cases h

/-- The state that a file describes is loaded and nothing is reported; or the run exits with code 1
after the message that the state file is invalid, with no output and no file written. -/
def StateAnswered (w : World) (o : Options) (argv : List (List Char)) (b : Begun w o)
    (described : Except DataFault State) : Prop :=
  (∃ st, described = .ok st ∧ outcome (loadState w o) b.report = (.ok st, b.report)) ∨
  ∃ shown, "✖ Invalid state file ".toList <+: shown ∧
    run w argv = ⟨.exit 1, ⟨[], b.report.errors ++ shown ++ ['\n'], none⟩⟩

/-- A run with a state file in JSON, of any octets. It loads the state that the file describes, or
ends after the message that the file is invalid; but a value of the wrong kind in place of an
object, nesting that is too deep and an infinite number end it without a message, and so does a path
that holds tags which do not fit. Neither happens if the document is regular and the path holds no
opening bracket. A text that opens with more brackets than may nest is one that ends the run. -/
theorem run_of_stateFile (hparse : Options.parse argv = .ok o) (b : Begun w o)
    (hstate : o.state = some (some p)) (hread : w.tree.read w.folder p = .ok octets)
    (hjson : isYaml p = false) :
    ((∃ st, State.ofFile p octets w.stateNesting = .ok st ∧
        outcome (loadState w o) b.report = (.ok st, b.report)) ∨
      (∃ fault shown, State.ofFile p octets w.stateNesting = .error fault ∧ isReported fault ∧
        showStyled (invalidState p fault) = .ok shown ∧
        "✖ Invalid state file ".toList <+: shown ∧
        run w argv = ⟨.exit 1, ⟨[], b.report.errors ++ shown ++ ['\n'], none⟩⟩) ∨
      (∃ fault, State.ofFile p octets w.stateNesting = .error fault ∧ IsUnreported fault ∧
        run w argv = ⟨.crash (.data fault), b.report⟩) ∨
      ∃ fault cause, State.ofFile p octets w.stateNesting = .error fault ∧
        showStyled (invalidState p fault) = .error cause ∧ '[' ∈ p.text ∧
        run w argv = ⟨.crash (.styles cause), b.report⟩) ∧
    (RegularStateFile w.stateNesting.json octets → '[' ∉ p.text →
      StateAnswered w o argv b (State.ofFile p octets w.stateNesting)) ∧
    ∀ m s, w.stateNesting.json < m → octets = Utf8.encode (List.replicate m '[' ++ s) →
      run w argv = ⟨.crash (.data .tooDeep), b.report⟩ := by
  have hload := outcome_loadState hstate hread b.report
  obtain ⟨houtput, hwritten⟩ := b.quiet_report
  refine and_assoc.mp ⟨?_, fun m s hm ho => b.run_of_nest hparse hstate hread hjson hm ho⟩
  cases hfile : State.ofFile p octets w.stateNesting with
  | ok st =>
    rw [hfile] at hload
    exact ⟨.inl ⟨st, rfl, hload⟩, fun _ _ => .inl ⟨st, rfl, hload⟩⟩
  | error fault =>
    rw [hfile] at hload
    dsimp only at hload
    -- a reported fault is shown with the path, whose tags may not fit; any other ends the run
    by_cases hreported : isReported fault = true
    · rw [if_pos hreported] at hload
      cases hshown : showStyled (invalidState p fault) with
      | ok shown =>
        have hfront := isPrefix_invalidState hshown
        have hrun : run w argv =
            ⟨.exit 1, ⟨[], b.report.errors ++ shown ++ ['\n'], none⟩⟩ := by
          rw [outcome_bind_of_ok (outcome_notify hshown), outcome_exit] at hload
          rw [b.run_of_loadState hparse hload, houtput, hwritten]
        exact ⟨.inr (.inl ⟨fault, shown, rfl, hreported, hshown, hfront, hrun⟩),
          fun _ _ => .inr ⟨shown, hfront, hrun⟩⟩
      | error cause =>
        have hbracket := mem_of_invalidState_error hshown
        rw [outcome_bind_of_error (outcome_notify_error hshown)] at hload
        exact ⟨.inr (.inr (.inr ⟨fault, cause, rfl, hshown, hbracket,
          b.run_of_loadState hparse hload⟩)), fun _ hpath => (hpath hbracket).elim⟩
    · rw [if_neg hreported] at hload
      -- with all three kinds allowed, nothing need be known of the octets
      have hfault : isReported fault ∨ IsUnreported fault := by
        refine failsIn_ofFile (P := fun fault => isReported fault ∨ IsUnreported fault)
          (fun _ => .inl) hjson ?_ ?_ ?_ fault hfile
        · exact .inl (.inr (.inr (.inl rfl)))
        · exact .inl (.inr (.inl rfl))
        · exact .inl (.inr (.inr (.inr rfl)))
      refine ⟨.inr (.inr (.inl ⟨fault, rfl, hfault.resolve_left hreported,
        b.run_of_loadState hparse hload⟩)), fun hregular _ => ?_⟩
      exact (hreported (failsIn_ofFile (fun _ h => h) hjson (.inr hregular.nesting)
        (.inr hregular.shape) (.inr hregular.bounded) fault hfile)).elim

end

/-! A line that names a text and the state file `s.json`. -/

def stateWorld (octets : List UInt8) : World where
  tree := ⟨[(["s.json".toList], .file octets)]⟩
  folder := []
  userSettings := .ofText "/config.json".toList
  input := []

def stateLine : List (List Char) := ["--text".toList, ['x'], "--state".toList, "s.json".toList]

def stateOptions : Options where
  text := some (some ['x'])
  state := some (some (.ofText "s.json".toList))

theorem parse_stateLine : Options.parse stateLine = .ok stateOptions :=
  toOption_eq_some.mp (by decide +kernel)

def begunWithState (octets : List UInt8) : Begun (stateWorld octets) stateOptions where
  noOverview := rfl
  noListing := rfl
  settings := {}
  text := some ['x']
  remarked := {}
  read := {}
  settings_eq := rfl
  text_eq := rfl

/-- The id, as it is written, and the value of the one switch that a document describes. -/
def soleSwitch? : Document → Option (List Char × Int)
  | object [(text name, object [(text key, int n)])] =>
    if name = "switches".toList then some (key, n) else none
  | _ => none

theorem eq_object_of_soleSwitch? {v : Document} {key : List Char} {n : Int}
    (h : soleSwitch? v = some (key, n)) :
    v = object [(text "switches".toList, object [(text key, int n)])] := by
  unfold soleSwitch? at h
  split at h
  · split at h
    · next hname =>
      cases h
      rw [hname]
    · cases h
  · cases h

/-- The id of a switch is a text that is no numeral. -/
def unnumbered : List UInt8 := Utf8.encode "\x7b\"switches\": \x7b\"x\": 1\x7d\x7d".toList

theorem regular_unnumbered : RegularStateFile Json.usualDepth unnumbered := by
  have hread : (readJson Json.usualDepth unnumbered).toOption.bind soleSwitch? =
      some (['x'], 1) := by decide +kernel
  obtain ⟨v, hv, hsole⟩ := Option.bind_eq_some_iff.mp hread
  have hdocument := toOption_eq_some.mp hv
  rw [eq_object_of_soleSwitch? hsole] at hdocument
  refine ⟨by rw [hdocument]; nofun, fun fields h => ?_, fun fields h => ?_⟩
  · cases hdocument.symm.trans h
    refine ⟨fun name hname v hv => ?_, fun name hname v hv => ?_⟩
    · simp only [List.mem_cons, List.not_mem_nil, or_false] at hname
      rcases hname with rfl | rfl | rfl | rfl | rfl <;> cases hv
      exact ⟨_, rfl⟩
    · simp only [List.mem_cons, List.not_mem_nil, or_false] at hname
      rcases hname with rfl | rfl | rfl <;> cases hv
  · cases hdocument.symm.trans h
    have hid : (object [(text ['x'], int 1)]).Bounded :=
      bounded_object (by simp only [List.forall_mem_singleton]; exact ⟨nofun, nofun⟩)
    exact bounded_object (by simp only [List.forall_mem_singleton]; exact ⟨nofun, hid⟩)

theorem run_of_stateFile_unnumbered :
    RegularStateFile Json.usualDepth unnumbered ∧
      ∃ shown, "✖ Invalid state file ".toList <+: shown ∧
        run (stateWorld unnumbered) stateLine = ⟨.exit 1, ⟨[], shown ++ ['\n'], none⟩⟩ := by
  refine ⟨regular_unnumbered, ?_⟩
  obtain ⟨-, hanswered, -⟩ :=
    run_of_stateFile parse_stateLine (begunWithState unnumbered) rfl rfl rfl
  rcases hanswered regular_unnumbered (by decide) with ⟨st, hst, -⟩ | hrun
  · have hfile : (State.ofFile (.ofText "s.json".toList) unnumbered).toOption = none := by
      decide +kernel
    cases (congrArg Except.toOption hst).symm.trans hfile
  · exact hrun

/-- A list in place of an object ends the run without a message. -/
theorem not_run_of_stateFile :
    ¬∀ octets, StateAnswered (stateWorld octets) stateOptions stateLine (begunWithState octets)
      (State.ofFile (.ofText "s.json".toList) octets) := by
  intro h
  have hcrash : (run (stateWorld (Utf8.encode "\x7b\"switches\": [1]\x7d".toList))
      stateLine).stop = .crash (.data .noFields) := by decide +kernel
  rcases h (Utf8.encode "\x7b\"switches\": [1]\x7d".toList) with ⟨st, hst, -⟩ | ⟨shown, -, hrun⟩
  · have hfile : (State.ofFile (.ofText "s.json".toList)
        (Utf8.encode "\x7b\"switches\": [1]\x7d".toList)).toOption = none := by decide +kernel
    rw [hst] at hfile
    cases hfile
  · rw [hrun] at hcrash
    cases hcrash

end Command
end DialogueMarkup
