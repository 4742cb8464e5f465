import DialogueMarkup.Proofs.Overrides
import DialogueMarkup.Proofs.Utf8

/-! What a line gives to its run: settings, a state and a text, each told by the line and the files
that it names. A run reads just these, or stops. -/
namespace DialogueMarkup.Command
open Document Text Files Console Job

/-! The text. -/

/-- The text that a line names: the one in it, or else the input if that is asked for, or else the
text of a file. -/
inductive NamesText (w : World) (o : Options) : Value → Prop
  | written {v : Value} (h : o.text = some v) : NamesText w o v
  | input (h : o.text = none) (hinput : o.stdin = true) :
    NamesText w o (some (unifyBreaks w.input))
  | file {name s : List Char} (h : o.text = none) (hinput : o.stdin = false)
    (hname : o.textFile = some name) (hne : name ≠ [])
    (hread : w.tree.read w.folder (.ofText name) = .ok (Utf8.encode s)) :
    NamesText w o (some (unifyBreaks s))

section
variable {w : World} {o : Options} {r r' : Report}

theorem outcome_orCrash_eq_ok {α ε : Type} {f : ε → Crash} {x : Except ε α} {a : α}
    (h : outcome (orCrash f x) r = (.ok a, r')) : x = .ok a ∧ r' = r := by
  cases x with
  | ok b =>
    cases h
    exact ⟨rfl, rfl⟩
  | error e => cases h

theorem outcome_loadTextFile {name s : List Char}
    (h : w.tree.read w.folder (.ofText name) = .ok (Utf8.encode s)) (r : Report) :
    outcome (loadTextFile w name) r = (.ok (unifyBreaks s), r) := by
  unfold loadTextFile
  rw [isThere_of_read h, pure_bind]
  simp only [Bool.not_true, Bool.false_eq_true, if_false, h]
  change outcome (orCrash Crash.data (readText (Utf8.encode s))) r = _
  rw [readText_encode]
  rfl

theorem exists_read_of_loadTextFile {name t : List Char}
    (h : outcome (loadTextFile w name) r = (.ok t, r')) :
    ∃ s, w.tree.read w.folder (.ofText name) = .ok (Utf8.encode s) ∧ t = unifyBreaks s := by
  unfold loadTextFile at h
  obtain ⟨there, r₁, hthere, h⟩ := exists_of_outcome_bind h
  cases there with
  | false =>
    obtain ⟨_, _, -, h⟩ := exists_of_outcome_bind h
    cases h
  | true =>
    obtain ⟨octets, r₂, hread, h⟩ := exists_of_outcome_bind h
    obtain ⟨s, rfl, ht⟩ := readText_eq_ok_iff.mp (outcome_orCrash_eq_ok h).1
    exact ⟨s, (outcome_orCrash_eq_ok hread).1, ht.symm⟩

theorem NamesText.outcome_eq {v : Value} (h : NamesText w o v) (r : Report) :
    outcome (loadText w o) r = (.ok (some v), r) := by
  unfold loadText
  cases h with
  | written h =>
    rw [h]
    rfl
  | input h hinput =>
    rw [h]
    simp only [hinput, if_true]
    rfl
  | file h hinput hname hne hread =>
    rw [h]
    simp only [hinput, Bool.false_eq_true, if_false, hname]
    rw [map_eq_pure_bind, outcome_bind_of_ok (outcome_loadTextFile hread r)]
    rfl

theorem namesText_of_outcome {v : Value} (h : outcome (loadText w o) r = (.ok (some v), r')) :
    NamesText w o v := by
  unfold loadText at h
  cases htext : o.text with
  | some s =>
    rw [htext] at h
    cases h
    exact .written htext
  | none =>
    rw [htext] at h
    cases hinput : o.stdin with
    | true =>
      simp only [hinput, if_true] at h
      cases h
      exact .input htext hinput
    | false =>
      simp only [hinput, Bool.false_eq_true, if_false] at h
      split at h
      · cases h
      · cases h
      · next name hne hname =>
        rw [map_eq_pure_bind] at h
        obtain ⟨t, r₁, hload, h⟩ := exists_of_outcome_bind h
        obtain ⟨s, hread, rfl⟩ := exists_read_of_loadTextFile hload
        cases h
        exact .file htext hinput hname hne hread

/-- A line names one text at most. -/
theorem NamesText.unique {v v' : Value} (h : NamesText w o v) (h' : NamesText w o v') : v = v' := by
  cases (h.outcome_eq {}).symm.trans (h'.outcome_eq {})
  rfl

/-! The settings. -/

theorem outcome_mapM_pathOf (path? : Option Path) (r : Report) :
    outcome ((path?.map some).mapM pathOf) r = (.ok path?, r) := by
  cases path? <;> rfl

theorem eq_map_of_mapM_pathOf {p?? : Option (Option Path)} {path? : Option Path}
    (h : outcome (p??.mapM pathOf) r = (.ok path?, r')) : p?? = path?.map some := by
  rcases p?? with _ | _ | p <;> cases h <;> rfl

/-- The settings that a line names: those of the tiers, with the file that it asks for if it does,
and without grammar if it says so. -/
def NamesSettings (w : World) (o : Options) (s : Settings) : Prop :=
  ∃ path? loaded, o.config = path?.map some ∧
    Settings.load w.tree w.folder w.userSettings path? w.settingsNesting = .ok loaded ∧
    s = if o.noGrammar then { loaded.settings with grammar := false } else loaded.settings

theorem exists_read_of_load {t : Tree} {folder : Location} {user : Path} {n : Nesting}
    {loaded : Settings.Resolved} (h : Settings.load t folder user (some p) n = .ok loaded) :
    ∃ octets, t.read folder p = .ok octets := by
  rw [Settings.load] at h
  obtain ⟨r₁, -, h⟩ := bind_eq_ok h
  obtain ⟨r₂, -, h⟩ := bind_eq_ok h
  obtain ⟨octets, hread, -⟩ := bind_eq_ok h
  exact ⟨octets, mapError_eq_ok hread⟩

theorem NamesSettings.exists_outcome {s : Settings} (h : NamesSettings w o s) (r : Report) :
    ∃ loaded r', outcome (loadSettings w o) r = (.ok loaded, r') ∧ loaded.settings = s := by
  obtain ⟨path?, loaded, hconfig, hload, rfl⟩ := h
  have hthere : outcome (path?.forM fun p => do
      if !(← isThere w p) then
        complain ("Config file ".toList ++ styledPath p.text ++ " not found.".toList)
        exit 1) r = (.ok (), r) := by
    cases path? with
    | none => rfl
    | some p =>
      obtain ⟨octets, hread⟩ := exists_read_of_load hload
      change outcome (isThere w p >>= _) r = _
      rw [isThere_of_read hread]
      rfl
  have hremarks : outcome (loaded.unreadable.forM fun path =>
      note ("WARNING  Ignoring unreadable config ".toList ++ path.text)) r = (.ok (), { r with
        errors := r.errors ++ loaded.unreadable.flatMap fun path =>
          "WARNING  Ignoring unreadable config ".toList ++ path.text ++ ['\n'] }) :=
    outcome_forM (fun _ _ _ => rfl) r
  unfold loadSettings
  rw [hconfig, outcome_bind_of_ok (outcome_mapM_pathOf path? r), outcome_bind_of_ok hthere, hload]
  dsimp only
  rw [outcome_bind_of_ok hremarks]
  refine ⟨_, _, rfl, ?_⟩
  cases o.noGrammar <;> rfl

theorem namesSettings_of_outcome {loaded : Settings.Resolved}
    (h : outcome (loadSettings w o) r = (.ok loaded, r')) : NamesSettings w o loaded.settings := by
  unfold loadSettings at h
  obtain ⟨path?, r₁, hpath, h⟩ := exists_of_outcome_bind h
  obtain ⟨_, r₂, -, h⟩ := exists_of_outcome_bind h
  split at h
  · next resolved hload =>
    obtain ⟨_, r₃, -, h⟩ := exists_of_outcome_bind h
    refine ⟨path?, resolved, eq_map_of_mapM_pathOf hpath, hload, ?_⟩
    cases h
    cases o.noGrammar <;> rfl
  · obtain ⟨_, _, -, h⟩ := exists_of_outcome_bind h
    cases h
  · split at h
    · obtain ⟨_, _, -, h⟩ := exists_of_outcome_bind h
      cases h
    · cases h

/-! The state. -/

/-- The state that a line begins with: that of its state file, or the one in which nothing is
set. -/
inductive DescribesState (w : World) (o : Options) : State → Prop
  | empty (h : o.state = none) : DescribesState w o {}
  | file {p : Path} {octets : List UInt8} {st : State} (h : o.state = some (some p))
    (hread : w.tree.read w.folder p = .ok octets)
    (hfile : State.ofFile p octets w.stateNesting = .ok st) : DescribesState w o st

/-- The state that a line names: the one that it begins with, with its overrides. -/
def NamesState (w : World) (o : Options) (st : State) : Prop :=
  ∃ described remarks, DescribesState w o described ∧
    overrideAll described o.switches o.vars o.selfSwitches = ((st, remarks), none)

theorem DescribesState.outcome_eq {st : State} (h : DescribesState w o st) (r : Report) :
    outcome (loadState w o) r = (.ok st, r) := by
  cases h with
  | empty h =>
    unfold loadState
    rw [h]
    rfl
  | file h hread hfile =>
    rw [loadState_of_read h hread, hfile]
    rfl

theorem describesState_of_outcome {st : State} (h : outcome (loadState w o) r = (.ok st, r')) :
    DescribesState w o st := by
  unfold loadState at h
  obtain ⟨path?, r₁, hpath, h⟩ := exists_of_outcome_bind h
  have hstate := eq_map_of_mapM_pathOf hpath
  cases path? with
  | none =>
    cases h
    exact .empty hstate
  | some p =>
    obtain ⟨there, r₂, -, h⟩ := exists_of_outcome_bind h
    cases there with
    | false =>
      obtain ⟨_, _, -, h⟩ := exists_of_outcome_bind h
      cases h
    | true =>
      simp only [Bool.not_true, Bool.false_eq_true, if_false] at h
      split at h
      · obtain ⟨_, _, -, h⟩ := exists_of_outcome_bind h
        cases h
      · next octets hread =>
        split at h
        · next hfile =>
          cases h
          exact .file hstate hread hfile
        · split at h
          · obtain ⟨_, _, -, h⟩ := exists_of_outcome_bind h
            cases h
          · cases h

/-- Every remark on an item can be shown. -/
theorem exists_option_of_override (kind : ItemKind) {f : State → List Char → ItemResult}
    {st : State} {remarks : List Remark} (items : List (Option (List Char)))
    (hremarks : ∀ m ∈ remarks, ∃ kind : ItemKind, kind.option = m.option) :
    ∀ m ∈ (override f kind.option (st, remarks) items).1.2,
      ∃ kind : ItemKind, kind.option = m.option := by
  induction items generalizing st remarks with
  | nil => exact hremarks
  | cons item? rest ih =>
    cases item? with
    | none => exact hremarks
    | some item =>
      rw [override]
      split
      · exact hremarks
      · exact ih hremarks
      · refine ih fun m hm => ?_
        rcases List.mem_append.mp hm with hm | hm
        · exact hremarks m hm
        · exact ⟨kind, by rw [List.mem_singleton.mp hm]⟩

theorem exists_option_of_overrideAll (st : State)
    (switches vars selfSwitches : List (Option (List Char))) :
    ∀ m ∈ (overrideAll st switches vars selfSwitches).1.2,
      ∃ kind : ItemKind, kind.option = m.option := by
  have hswitches : ∀ m ∈ (override overrideSwitch "--switch".toList (st, []) switches).1.2,
      ∃ kind : ItemKind, kind.option = m.option :=
    exists_option_of_override .switch switches nofun
  rw [overrideAll]
  split
  · next h =>
    rw [h] at hswitches
    exact hswitches
  · next r h =>
    rw [h] at hswitches
    have hvars : ∀ m ∈ (override overrideVariable "--variable".toList r vars).1.2,
        ∃ kind : ItemKind, kind.option = m.option :=
      exists_option_of_override .var vars hswitches
    split
    · next h' =>
      rw [h'] at hvars
      exact hvars
    · next h' =>
      rw [h'] at hvars
      exact exists_option_of_override .selfSwitch selfSwitches hvars

theorem NamesState.exists_outcome {st : State} (h : NamesState w o st) (r : Report) :
    ∃ described r₁ r₂, outcome (loadState w o) r = (.ok described, r₁) ∧
      outcome (applyOverrides o described) r₁ = (.ok st, r₂) := by
  obtain ⟨described, remarks, hdescribed, hall⟩ := h
  have hoptions := exists_option_of_overrideAll described o.switches o.vars o.selfSwitches
  rw [hall] at hoptions
  exact ⟨described, r, _, hdescribed.outcome_eq r,
    outcome_applyOverrides hall (fun m hm => m.showStyled_styled (hoptions m hm)) r⟩

theorem namesState_of_outcome {described st : State} {r₁ r₂ : Report}
    (hload : outcome (loadState w o) r = (.ok described, r₁))
    (h : outcome (applyOverrides o described) r₁ = (.ok st, r₂)) : NamesState w o st := by
  have hoptions := exists_option_of_overrideAll described o.switches o.vars o.selfSwitches
  rcases hall : overrideAll described o.switches o.vars o.selfSwitches with
    ⟨⟨st', remarks⟩, fault?⟩
  rw [hall] at hoptions
  rw [outcome_applyOverrides hall fun m hm => m.showStyled_styled (hoptions m hm)] at h
  rcases fault? with _ | fault | _
  · cases h
    exact ⟨described, remarks, describesState_of_outcome hload, hall⟩
  · cases h
  · cases h

end

/-- What a line gives to the work on its text. -/
structure Given (w : World) (o : Options) (settings : Settings) (st : State) (text : Value) :
    Prop where
  settings : NamesSettings w o settings
  state : NamesState w o st
  text : NamesText w o text

end DialogueMarkup.Command
