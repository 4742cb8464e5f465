import DialogueMarkup.Command.Run
import DialogueMarkup.Proofs.StyledText

/-! Runs step by step. A job starts from a report and ends with a result, or stops; jobs that read
settings, texts and states are quiet: they print no result and write no file. -/
namespace DialogueMarkup.Command
open Text Files Console

namespace Job
variable {α β ε : Type} {j : Job α} {f : α → Job β} {r r' : Report}

/-- How a job ends when this has been reported before, and what has been reported then. -/
def outcome (j : Job α) (r : Report) : Except Stop α × Report := j.run.run r

@[simp]
theorem outcome_pure (a : α) : outcome (pure a) r = (.ok a, r) := rfl

theorem outcome_exit (code : Nat) : outcome (exit code : Job α) r = (.error (.exit code), r) := rfl

theorem outcome_bind (j : Job α) (f : α → Job β) (r : Report) :
    outcome (j >>= f) r = match outcome j r with
      | (.ok a, r') => outcome (f a) r'
      | (.error stop, r') => (.error stop, r') := by
  change (match outcome j r with
    | (a, r') => (ExceptT.bindCont f a).run r') = _
  rcases outcome j r with ⟨⟨⟩ | ⟨⟩, r'⟩ <;> rfl

theorem outcome_bind_of_ok {a : α} (h : outcome j r = (.ok a, r')) :
    outcome (j >>= f) r = outcome (f a) r' := by
  rw [outcome_bind, h]

theorem outcome_bind_of_error {stop : Stop} (h : outcome j r = (.error stop, r')) :
    outcome (j >>= f) r = (.error stop, r') := by
  rw [outcome_bind, h]

/-- A chain of jobs ends where the first of them stops, or as the second one does. -/
theorem outcome_bind_cases (j : Job α) (f : α → Job β) (r : Report) :
    (∃ a r', outcome j r = (.ok a, r') ∧ outcome (j >>= f) r = outcome (f a) r') ∨
    ∃ stop r', outcome j r = (.error stop, r') ∧ outcome (j >>= f) r = (.error stop, r') := by
  rcases h : outcome j r with ⟨stop | a, r'⟩
  · exact .inr ⟨stop, r', rfl, outcome_bind_of_error h⟩
  · exact .inl ⟨a, r', rfl, outcome_bind_of_ok h⟩

/-- What goes through has gone through before. -/
theorem exists_of_outcome_bind {b : β} {r'' : Report} (h : outcome (j >>= f) r = (.ok b, r'')) :
    ∃ a r', outcome j r = (.ok a, r') ∧ outcome (f a) r' = (.ok b, r'') := by
  rcases outcome_bind_cases j f r with ⟨a, r', hj, hbind⟩ | ⟨stop, r', hj, hbind⟩
  · exact ⟨a, r', hj, hbind.symm.trans h⟩
  · cases hbind.symm.trans h

theorem outcome_notify {s shown : List Char} (h : showStyled s = .ok shown) :
    outcome (notify s) r = (.ok (), { r with errors := r.errors ++ shown ++ ['\n'] }) := by
  rw [notify, h]
  rfl

/-- A message that cannot be shown ends the run. -/
theorem outcome_notify_error {s : List Char} {fault : StyleFault}
    (h : showStyled s = .error fault) :
    outcome (notify s) r = (.error (.crash (.styles fault)), r) := by
  rw [notify, h]
  rfl

/-- Jobs each of which adds a line of a message. -/
theorem outcome_forM {g : α → Job PUnit} {line : α → List Char} {l : List α}
    (h : ∀ a ∈ l, ∀ r : Report,
      outcome (g a) r = (.ok (), { r with errors := r.errors ++ line a ++ ['\n'] })) (r : Report) :
    outcome (l.forM g) r =
      (.ok (), { r with errors := r.errors ++ l.flatMap fun a => line a ++ ['\n'] }) := by
  induction l generalizing r with
  | nil => simp
  | cons a l ih =>
    obtain ⟨ha, hrest⟩ := List.forall_mem_cons.mp h
    refine (outcome_bind_of_ok (ha r)).trans ((ih hrest _).trans ?_)
    simp

/-! Jobs that print no result and write no file. -/

/-- However the job ends, nothing is printed as a result and no file is written, and it does not end
the run as if all was done. -/
structure Quiet (j : Job α) : Prop where
  output : ∀ r, (outcome j r).2.output = r.output
  written : ∀ r, (outcome j r).2.written = r.written
  exit_ne : ∀ r, (outcome j r).1 ≠ .error (.exit 0)

namespace Quiet

theorem pure (a : α) : Quiet (pure a) := ⟨fun _ => rfl, fun _ => rfl, nofun⟩

theorem exit {code : Nat} (h : code ≠ 0) : Quiet (exit code : Job α) :=
  ⟨fun _ => rfl, fun _ => rfl, fun _ hexit => by
    cases hexit
    exact h rfl⟩

theorem crash (c : Crash) : Quiet (crash c : Job α) := ⟨fun _ => rfl, fun _ => rfl, nofun⟩

theorem note (s : List Char) : Quiet (note s) := ⟨fun _ => rfl, fun _ => rfl, nofun⟩

theorem bind (hj : Quiet j) (hf : ∀ a, Quiet (f a)) : Quiet (j >>= f) := by
  refine ⟨fun r => ?_, fun r => ?_, fun r => ?_⟩ <;>
    rcases outcome_bind_cases j f r with ⟨a, r', h, hbind⟩ | ⟨stop, r', h, hbind⟩ <;> rw [hbind]
  · exact ((hf a).output r').trans (by simpa [h] using hj.output r)
  · simpa [h] using hj.output r
  · exact ((hf a).written r').trans (by simpa [h] using hj.written r)
  · simpa [h] using hj.written r
  · exact (hf a).exit_ne r'
  · simpa [h] using hj.exit_ne r

theorem keeps (hj : Quiet j) {x : Except Stop α} (h : outcome j r = (x, r')) :
    r'.output = r.output ∧ r'.written = r.written := by
  have houtput := hj.output r
  have hwritten := hj.written r
  rw [h] at houtput hwritten
  exact ⟨houtput, hwritten⟩

theorem map (hj : Quiet j) (g : α → β) : Quiet (g <$> j) := by
  rw [map_eq_pure_bind]
  exact hj.bind fun a => pure (g a)

theorem orCrash (g : ε → Crash) (x : Except ε α) : Quiet (orCrash g x) := by
  cases x with
  | ok a => exact pure a
  | error e => exact crash (g e)

theorem notify (s : List Char) : Quiet (notify s) := by
  rw [Job.notify]
  cases showStyled s with
  | ok s => exact note s
  | error fault => exact crash _

theorem complain (s : List Char) : Quiet (complain s) := notify _

theorem warn (s : List Char) : Quiet (warn s) := notify _

/-- A complaint that ends the run. -/
theorem refuse (s : List Char) {code : Nat} (h : code ≠ 0) :
    Quiet (do
      Job.complain s
      Job.exit code : Job α) :=
  (complain s).bind fun _ => exit h

theorem forM {g : α → Job PUnit} (hg : ∀ a, Quiet (g a)) (l : List α) : Quiet (l.forM g) := by
  induction l with
  | nil => exact pure ()
  | cons a l ih => exact (hg a).bind fun _ => ih

end Quiet
end Job

open Job

/-! What is read in front of the work on a text. -/

section
variable (w : World) (o : Options)

theorem quiet_pathOf (p? : Option Path) : Quiet (pathOf p?) := by
  cases p? with
  | none => exact .crash _
  | some p => exact .pure p

theorem quiet_mapM_pathOf (p?? : Option (Option Path)) : Quiet (p??.mapM pathOf) := by
  cases p?? with
  | none => exact .pure none
  | some p? => exact (quiet_pathOf p?).map some

theorem quiet_isThere (p : Path) : Quiet (isThere w p) := .orCrash _ _

theorem quiet_loadSettings : Quiet (loadSettings w o) := by
  unfold loadSettings
  refine (quiet_mapM_pathOf o.config).bind fun path? => .bind ?_ fun _ => ?_
  · cases path? with
    | none => exact .pure ()
    | some p =>
      refine (quiet_isThere w p).bind fun there => ?_
      cases there with
      | false => exact .refuse _ (by decide)
      | true => exact .pure ()
  · split
    · exact (Quiet.forM (fun _ => .note _) _).bind fun _ => .pure _
    · exact .refuse _ (by decide)
    · split
      · exact .refuse _ (by decide)
      · exact .crash _

theorem quiet_loadTextFile (name : List Char) : Quiet (loadTextFile w name) := by
  unfold loadTextFile
  refine (quiet_isThere w _).bind fun there => ?_
  cases there with
  | false => exact .refuse _ (by decide)
  | true => exact (Quiet.orCrash _ _).bind fun _ => .orCrash _ _

theorem quiet_loadText : Quiet (loadText w o) := by
  unfold loadText
  split
  · exact .pure _
  · split
    · exact .pure _
    · split
      · exact .pure _
      · exact .pure _
      · exact (quiet_loadTextFile w _).map _

theorem quiet_loadState : Quiet (loadState w o) := by
  unfold loadState
  refine (quiet_mapM_pathOf o.state).bind fun path? => ?_
  cases path? with
  | none => exact .pure _
  | some p =>
    refine (quiet_isThere w p).bind fun there => ?_
    cases there with
    | false => exact .refuse _ (by decide)
    | true =>
      simp only [Bool.not_true, Bool.false_eq_true, if_false]
      split
      · exact .refuse _ (by decide)
      · split
        · exact .pure _
        · split
          · exact .refuse _ (by decide)
          · exact .crash _

theorem quiet_applyOverrides (st : State) : Quiet (applyOverrides o st) := by
  unfold applyOverrides
  split
  refine (Quiet.forM (fun _ => .warn _) _).bind fun _ => ?_
  split
  · exact .crash _
  · exact .crash _
  · exact .pure _

theorem quiet_orComplain {α : Type} (x : Except Fault α) : Quiet (orComplain x) := by
  unfold orComplain
  split
  · exact .pure _
  · exact .crash _
  · exact .refuse _ (by decide)

end

section
variable {w : World} {o : Options} {p : Path} {octets : List UInt8}

theorem isThere_of_read (h : w.tree.read w.folder p = .ok octets) : isThere w p = pure true := by
  rw [isThere, Tree.hasFile, h]
  rfl

theorem loadState_of_read (hstate : o.state = some (some p))
    (hread : w.tree.read w.folder p = .ok octets) :
    loadState w o = match State.ofFile p octets w.stateNesting with
      | .ok st => pure st
      | .error fault =>
        if isReported fault then do
          complain ("Invalid state file ".toList ++ styledPath p.text ++ ": ".toList ++
            escape fault.message)
          exit 1
        else crash (.data fault) := by
  unfold loadState
  rw [hstate]
  change (isThere w p >>= _) = _
  rw [isThere_of_read hread, pure_bind]
  cases hfile : State.ofFile p octets w.stateNesting <;>
    simp only [Bool.not_true, Bool.false_eq_true, if_false, hread, hfile]

end

/-! Runs that come to the state. -/

deriving instance DecidableEq for Options

/-- A run that neither shows the settings nor lists what the text depends on comes to the state when
settings and text are there. -/
structure Begun (w : World) (o : Options) where
  noOverview : o.env = false
  noListing : o.scan = false
  settings : Settings.Resolved
  text : Value
  /-- what the settings have been remarked on -/
  remarked : Report
  /-- what has been reported when the text is there -/
  read : Report
  settings_eq : outcome (loadSettings w o) {} = (.ok settings, remarked)
  text_eq : outcome (loadText w o) remarked = (.ok (some text), read)

namespace Begun
variable {w : World} {o : Options} (b : Begun w o)

/-- What has been reported in front of the state. -/
def report : Report :=
  if o.verbose then { b.read with errors := b.read.errors ++ "Loading state…".toList ++ ['\n'] }
  else b.read

/-- What a run does with its state, its settings and its text. -/
def work (st : State) : Job Unit := do
  if o.ui then
    complain "The live preview is not available.".toList
    exit 1
  let e := Engine.open st b.settings.settings
  if o.choices then runChoices w o e b.text else runRender w o e b.text

theorem outcome_perform :
    outcome (perform w o) {} =
      outcome (do b.work (← applyOverrides o (← loadState w o))) b.report := by
  unfold perform
  rw [outcome_bind_of_ok b.settings_eq]
  simp only [b.noOverview, b.noListing, Bool.false_eq_true, if_false]
  rw [outcome_bind_of_ok b.text_eq, report]
  cases o.verbose with
  | true => rfl
  | false => rfl

theorem quiet_report : b.report.output = [] ∧ b.report.written = none := by
  obtain ⟨hsettings, hsettings'⟩ := (quiet_loadSettings w o).keeps b.settings_eq
  obtain ⟨htext, htext'⟩ := (quiet_loadText w o).keeps b.text_eq
  rw [report]
  split <;> exact ⟨htext.trans hsettings, htext'.trans hsettings'⟩

end Begun

theorem run_eq {w : World} {argv : List (List Char)} {o : Options}
    (h : Options.parse argv = .ok o) :
    run w argv = match outcome (perform w o) {} with
      | (.ok (), report) => ⟨.exit 0, report⟩
      | (.error stop, report) => ⟨stop, report⟩ := by
  rw [run, h]
  rfl

end DialogueMarkup.Command
