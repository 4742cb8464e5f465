import DialogueMarkup.Proofs.Choices
import DialogueMarkup.Proofs.Display
import DialogueMarkup.Proofs.Given

/-! The output of a run. It comes last: a run that exits with an error has written no file and
printed nothing but perhaps the help, whatever is wrong with the last of many choices. -/
namespace DialogueMarkup.Command
open Text Files Console Job

/-! What a run has printed and written when it exits. -/

namespace Job
variable {α β : Type} {j : Job α} {f : α → Job β}

/-- A job that exits does so with an error code; then no file has been written and nothing has been
printed as a result but perhaps the help. -/
def Clean (j : Job α) : Prop :=
  ∀ r code r', outcome j r = (.error (.exit code), r') →
    code ≠ 0 ∧ r'.written = r.written ∧
      (r'.output = r.output ∨ r'.output = r.output ++ helpText ++ ['\n'])

namespace Clean

theorem of_quiet (hj : Quiet j) : Clean j := by
  intro r code r' h
  obtain ⟨houtput, hwritten⟩ := hj.keeps h
  refine ⟨?_, hwritten, .inl houtput⟩
  rintro rfl
  exact hj.exit_ne r (congrArg Prod.fst h)

theorem bind (hj : Quiet j) (hf : ∀ a, Clean (f a)) : Clean (j >>= f) := by
  intro r code r' h
  rcases outcome_bind_cases j f r with ⟨a, r₁, hfirst, hbind⟩ | ⟨stop, r₁, hfirst, hbind⟩
  · obtain ⟨houtput, hwritten⟩ := hj.keeps hfirst
    rw [hbind] at h
    have hlast := hf a r₁ code r' h
    rwa [houtput, hwritten] at hlast
  · rw [hbind] at h
    cases h
    exact of_quiet hj r code _ hfirst

end Clean
end Job

section
variable (w : World) (o : Options)

/-- The result that is asked for, as text or as a document. -/
def resultOf (o : Options) (text : List Char) (data : Document) : List Char :=
  if o.json then data.writeIndented else text

/-- The result is printed, or written to the file asked for. -/
def Delivered (o : Options) (result : List Char) (r r' : Report) : Prop :=
  match o.output with
  | none => r'.output = r.output ++ result ++ ['\n'] ∧ r'.written = r.written
  | some p => r'.output = r.output ∧ r'.written = some (p, result)

/-- A result is delivered, or the run crashes. -/
theorem emit_cases (text : List Char) (data : Document) (r : Report) :
    (∃ r', outcome (emit w o text data) r = (.ok (), r') ∧
      Delivered o (resultOf o text data) r r') ∨
      ∃ c r', outcome (emit w o text data) r = (.error (.crash c), r') := by
  unfold emit Delivered
  cases ho : o.output with
  | none => exact .inl ⟨_, rfl, rfl, rfl⟩
  | some p =>
    dsimp only
    cases w.tree.writable w.folder p with
    | error fault => exact .inr ⟨_, _, rfl⟩
    | ok place =>
      dsimp only
      have hwrite : outcome (modify fun r : Report =>
          { r with written := some (p, resultOf o text data) } : Job Unit) r =
            (.ok (), { r with written := some (p, resultOf o text data) }) := rfl
      rw [← resultOf, outcome_bind_of_ok hwrite]
      cases hshown : showStyled ("[success]✔ Wrote[/] [bright_cyan]".toList ++ p.text ++
          "[/]".toList) with
      | ok shown => exact .inl ⟨_, outcome_notify hshown, rfl, rfl⟩
      | error fault => exact .inr ⟨_, _, outcome_notify_error hshown⟩

theorem clean_emit (text : List Char) (data : Document) : Clean (emit w o text data) := by
  intro r code r' h
  rcases emit_cases w o text data r with ⟨r₁, hok, -⟩ | ⟨c, r₁, hcrash⟩
  · rw [hok] at h
    cases h
  · rw [hcrash] at h
    cases h

theorem clean_runScan (settings : Settings) (text : Value) :
    Clean (runScan w o settings text) := by
  unfold runScan
  cases text with
  | none => exact .of_quiet (.crash _)
  | some text => exact .bind (.orCrash _ _) fun m => clean_emit w o _ _

theorem clean_runChoices (e : Engine) (text : Value) : Clean (runChoices w o e text) := by
  unfold runChoices
  cases text with
  | none => exact .of_quiet (.crash _)
  | some text =>
    exact .bind (quiet_orComplain _) fun kept => .bind (quiet_orComplain _) fun rendered =>
      clean_emit w o _ _

theorem clean_runRender (e : Engine) (source : Value) : Clean (runRender w o e source) := by
  unfold runRender
  dsimp only
  split
  · exact .bind (quiet_orComplain _) fun empty => clean_emit w o _ _
  · exact .bind (quiet_orComplain _) fun output => clean_emit w o _ _

theorem clean_help : Clean (do
    print helpText
    exit 1 : Job Unit) := by
  intro r code r' h
  cases h
  exact ⟨by decide, rfl, .inr rfl⟩

theorem clean_perform (henv : o.env = false) : Clean (perform w o) := by
  unfold perform
  refine .bind (quiet_loadSettings w o) fun settings => ?_
  simp only [henv, Bool.false_eq_true, if_false]
  refine .bind (quiet_loadText w o) fun text? => ?_
  cases text? with
  | none => exact clean_help
  | some text =>
    dsimp only
    split
    · exact clean_runScan w o _ _
    · have hwork : Clean (do
          let st ← applyOverrides o (← loadState w o)
          if o.ui then
            complain "The live preview is not available.".toList
            exit 1
          let e := Engine.open st settings.settings
          if o.choices then runChoices w o e text else runRender w o e text) := by
        refine .bind (quiet_loadState w o) fun st => .bind (quiet_applyOverrides o st) fun st => ?_
        dsimp only
        split
        · exact .of_quiet (.refuse _ (by decide))
        · split
          · exact clean_runChoices w o _ _
          · exact clean_runRender w o _ _
      split
      · exact .bind (.note _) fun _ => hwork
      · exact hwork

end

/-! Runs that come to the work on their text. -/

/-- A run without a preview comes to the work on its text when the state is there, with the
overrides of the line. -/
structure Reached (w : World) (o : Options) extends Begun w o where
  noPreview : o.ui = false
  described : State
  state : State
  /-- what has been reported when the state is there -/
  stated : Report
  /-- what has been reported when the overrides are made -/
  ready : Report
  described_eq : outcome (loadState w o) toBegun.report = (.ok described, stated)
  state_eq : outcome (applyOverrides o described) stated = (.ok state, ready)

namespace Reached
variable {w : World} {o : Options} (g : Reached w o)

def engine : Engine := Engine.open g.state g.settings.settings

theorem outcome_perform : outcome (perform w o) {} =
    outcome (if o.choices then runChoices w o g.engine g.text
      else runRender w o g.engine g.text) g.ready := by
  rw [g.toBegun.outcome_perform, outcome_bind_of_ok g.described_eq, outcome_bind_of_ok g.state_eq,
    Begun.work]
  simp only [g.noPreview, Bool.false_eq_true, if_false]
  rfl

theorem quiet_ready : g.ready.output = [] ∧ g.ready.written = none := by
  obtain ⟨houtput, hwritten⟩ := g.toBegun.quiet_report
  obtain ⟨hstated, hstated'⟩ := (quiet_loadState w o).keeps g.described_eq
  obtain ⟨hready, hready'⟩ := (quiet_applyOverrides o g.described).keeps g.state_eq
  exact ⟨hready.trans (hstated.trans houtput), hready'.trans (hstated'.trans hwritten)⟩

/-- A run works on what its line gives. -/
theorem given : Given w o g.settings.settings g.state g.text where
  settings := namesSettings_of_outcome g.settings_eq
  state := namesState_of_outcome g.described_eq g.state_eq
  text := namesText_of_outcome g.text_eq

end Reached

/-- When a line gives settings, a state and a text, its run comes to the work on them. -/
theorem Given.exists_reached {w : World} {o : Options} {settings : Settings} {st : State}
    {text : Value} (h : Given w o settings st text) (henv : o.env = false)
    (hscan : o.scan = false) (hui : o.ui = false) :
    ∃ g : Reached w o, g.engine = Engine.open st settings ∧ g.text = text := by
  obtain ⟨loaded, remarked, hsettings, rfl⟩ := h.settings.exists_outcome {}
  let b : Begun w o :=
    ⟨henv, hscan, loaded, text, remarked, remarked, hsettings, h.text.outcome_eq remarked⟩
  obtain ⟨described, stated, ready, hdescribed, hstate⟩ := h.state.exists_outcome b.report
  exact ⟨⟨b, hui, described, st, stated, ready, hdescribed, hstate⟩, rfl, rfl⟩

/-- A run that asks for the work on a text, and ends as if all was done, comes to it. -/
theorem exists_reached {w : World} {o : Options} (henv : o.env = false) (hscan : o.scan = false)
    (hui : o.ui = false) {r : Report} (h : outcome (perform w o) {} = (.ok (), r)) :
    Nonempty (Reached w o) := by
  have hrun := h
  unfold perform at hrun
  obtain ⟨settings, remarked, hsettings, hrun⟩ := exists_of_outcome_bind hrun
  simp only [henv, Bool.false_eq_true, if_false] at hrun
  obtain ⟨text?, read, htext, hrun⟩ := exists_of_outcome_bind hrun
  cases text? with
  | none => cases hrun
  | some text =>
    let b : Begun w o := ⟨henv, hscan, settings, text, remarked, read, hsettings, htext⟩
    rw [b.outcome_perform] at h
    obtain ⟨described, stated, hdescribed, h⟩ := exists_of_outcome_bind h
    obtain ⟨state, ready, hstate, -⟩ := exists_of_outcome_bind h
    exact ⟨⟨b, hui, described, state, stated, ready, hdescribed, hstate⟩⟩

/-! Faults of the markup. -/

/-- A computation fails at a member of a list, and at none in front of it. -/
def FailsFirst {ε α β : Type} (f : α → Except ε β) (xs : List α) (error : ε) : Prop :=
  ∃ before x after, xs = before ++ x :: after ∧ (∀ y ∈ before, ∃ r, f y = .ok r) ∧
    f x = .error error

theorem FailsFirst.mapM_error {ε α β : Type} {f : α → Except ε β} {xs : List α} {error : ε}
    (h : FailsFirst f xs error) : xs.mapM f = .error error := by
  obtain ⟨before, x, after, rfl, hbefore, hx⟩ := h
  exact mapM_eq_error hbefore hx

/-- The work on a text meets a fault: of a choice, as it is expanded or as it is rendered, or of the
text. -/
def Meets (o : Options) (e : Engine) (text : Value) (fault : Fault) : Prop :=
  if o.choices then
    ∃ t, text = some t ∧
      (FailsFirst (e.expand none) (splitLines t) fault ∨
        (∀ line ∈ splitLines t, ∃ s, e.expand none line = .ok s) ∧
          FailsFirst (e.render none) ((splitLines t).filter (e.shows none)) fault)
  else if o.checkEmpty then e.expand none (text.getD []) = .error fault
  else e.render none (text.getD []) = .error fault

/-- The complaint about a fault of the markup. -/
def markupComplaint (title : List Char) (fault : Fault) : List Char :=
  "[err]✖ ".toList ++ ((title ++ ": ".toList) ++ escape fault.message) ++ "[/]".toList

theorem showStyled_markupComplaint {fault : Fault} {title : List Char}
    (h : fault.title? = some title) : ∃ shown,
      showStyled (markupComplaint title fault) = .ok shown ∧ "✖ ".toList ++ title <+: shown := by
  have hfront : ∀ c ∈ title ++ ": ".toList, c ≠ '\\' ∧ c ≠ '[' := by
    cases fault <;> cases h <;> exact forall_mem_of_all (by decide)
  obtain ⟨shown, hshown⟩ := showStyled_complaint hfront fault.message
  refine ⟨shown, hshown, ?_⟩
  have herr : "[err]✖ ".toList = Tag.text ⟨0, "err".toList⟩ ++ "✖ ".toList := rfl
  have hwords : ∀ c ∈ "✖ ".toList ++ title, showsItself c = true := by
    cases fault <;> cases h <;> exact forall_mem_of_all (by decide)
  have htagged : showStyled (Tag.text ⟨0, "err".toList⟩ ++ (("✖ ".toList ++ title) ++
      (": ".toList ++ escape fault.message ++ "[/]".toList))) = .ok shown := by
    rw [← hshown]
    simp only [herr, List.append_assoc]
  exact isPrefix_showStyled isTagBody_err hwords htagged

theorem outcome_orComplain_ok {α : Type} (a : α) (r : Report) :
    outcome (orComplain (.ok a)) r = (.ok a, r) := rfl

theorem outcome_orComplain_error {α : Type} {fault : Fault} {title shown : List Char}
    (h : fault.title? = some title) (hshown : showStyled (markupComplaint title fault) = .ok shown)
    (r : Report) : outcome (orComplain (.error fault : Except Fault α)) r =
      (.error (.exit 2), { r with errors := r.errors ++ shown ++ ['\n'] }) := by
  have hcomplain : orComplain (.error fault : Except Fault α) = (do
      notify (markupComplaint title fault)
      exit 2) := by
    cases fault <;> cases h <;> rfl
  rw [hcomplain, outcome_bind_of_ok (outcome_notify hshown), outcome_exit]

namespace Reached
variable {w : World} {o : Options} (g : Reached w o) {fault : Fault}

/-- A fault of the markup ends the run with code 2 and a complaint. -/
theorem outcome_of_meets (h : Meets o g.engine g.text fault) {title shown : List Char}
    (htitle : fault.title? = some title)
    (hshown : showStyled (markupComplaint title fault) = .ok shown) :
    outcome (perform w o) {} =
      (.error (.exit 2), { g.ready with errors := g.ready.errors ++ shown ++ ['\n'] }) := by
  have hstop : ∀ {α : Type} (f : α → Job Unit),
      outcome (orComplain (.error fault : Except Fault α) >>= f) g.ready =
        (.error (.exit 2), { g.ready with errors := g.ready.errors ++ shown ++ ['\n'] }) :=
    fun f => outcome_bind_of_error (outcome_orComplain_error htitle hshown g.ready)
  rw [g.outcome_perform]
  unfold Meets at h
  split at h
  · next hchoices =>
    obtain ⟨text, htext, hfails⟩ := h
    rw [if_pos hchoices, htext]
    -- all lines are expanded before the first is rendered
    rcases hfails with ⟨before, line, after, hlines, hbefore, hline⟩ | ⟨hexpand, hfails⟩
    · have hfilter : g.engine.filterChoices none (splitLines text) (-1) 0 = .error fault := by
        rw [hlines]
        exact Engine.filterChoices_eq_error hbefore hline (-1) 0
      unfold runChoices
      simp only [hfilter]
      exact hstop _
    · unfold runChoices
      simp only [Engine.filterChoices_eq_ok hexpand]
      rw [outcome_bind_of_ok (outcome_orComplain_ok _ _)]
      simp only [hfails.mapM_error]
      exact hstop _
  · next hchoices =>
    rw [if_neg hchoices]
    unfold runRender
    split at h
    · next hempty =>
      have hisEmpty : g.engine.isEmpty none (g.text.getD []) = .error fault := by
        rw [Engine.isEmpty, h]
        rfl
      simp only [hempty, if_true, hisEmpty]
      exact hstop _
    · next hempty =>
      simp only [hempty, h]
      exact hstop _

end Reached

/-! The choices listed. -/

theorem outcome_orComplain_eq_ok {α : Type} {x : Except Fault α} {a : α} {r r' : Report}
    (h : outcome (orComplain x) r = (.ok a, r')) : x = .ok a ∧ r' = r := by
  cases x with
  | ok b =>
    cases h
    exact ⟨rfl, rfl⟩
  | error fault =>
    exfalso
    cases htitle : fault.title? with
    | none =>
      cases fault <;> cases htitle
      cases h
    | some title =>
      obtain ⟨shown, hshown, -⟩ := showStyled_markupComplaint htitle
      cases (outcome_orComplain_error htitle hshown r).symm.trans h

/-- The places, of the first `n`, that are not among those given. -/
def others (n : Nat) (places : List Nat) : List Nat :=
  (List.range n).filter fun i => !places.contains i

theorem length_others (n : Nat) (p : Nat → Bool) :
    (others n ((List.range n).filter p)).length = n - ((List.range n).filter p).length := by
  have hdropped : (others n ((List.range n).filter p)).length =
      droppedBelow n ((List.range n).filter p) n := by
    rw [others, ← List.countP_eq_length_filter]
    refine List.countP_congr fun i hi => ?_
    have hlt : i < n := List.mem_range.mp hi
    simp [List.contains_eq_mem, hlt]
  have hboth := droppedBelow_add_length (n := n) (p := p)
  omega

/-- Lines and what is listed of them: the places, in their order, of those that show something, and
for each of these places the line rendered. -/
structure Lists (e : Engine) (lines : List (List Char)) (places : List Nat)
    (rendered : List (List Char)) : Prop where
  increasing : places.Pairwise (· < ·)
  mem_iff : ∀ i, i ∈ places ↔ ∃ line, lines[i]? = some line ∧ e.Shows none line
  rendered_eq : places.map (fun i => lines[i]?.map (e.render none)) =
    rendered.map fun s => some (.ok s)

theorem lists_keptPlaces {e : Engine} {lines rendered : List (List Char)}
    (h : (lines.filter (e.shows none)).mapM (e.render none) = .ok rendered) :
    Lists e lines (e.keptPlaces none lines) rendered where
  increasing := List.pairwise_lt_range.filter _
  mem_iff _ := Engine.mem_keptPlaces
  rendered_eq := by
    have hlines : (lines.filter (e.shows none)).map some =
        (e.keptPlaces none lines).map (lines[·]?) := map_some_filter _ _
    calc (e.keptPlaces none lines).map (fun i => lines[i]?.map (e.render none))
      _ = ((e.keptPlaces none lines).map (lines[·]?)).map (Option.map (e.render none)) := by
        rw [List.map_map]
        rfl
      _ = ((lines.filter (e.shows none)).map (e.render none)).map some := by
        rw [← hlines, List.map_map, List.map_map]
        rfl
      _ = rendered.map fun s => some (.ok s) := by
        rw [map_eq_of_mapM_eq_ok h, List.map_map]
        rfl

/-- The document that lists choices: the lines rendered, their places, and the number of the other
lines. -/
def choicesDocument (lines : List (List Char)) (places : List Nat) (rendered : List (List Char)) :
    Document :=
  .ofFields [
    ("choices", .list (rendered.map .text)),
    ("branch_indices", .list (places.map fun (n : Nat) => .int n)),
    ("hidden", .int (others lines.length places).length)]

/-- Choices that have been listed without a fault. -/
theorem runChoices_eq_ok {w : World} {o : Options} {e : Engine} {text : Value} {r r' : Report}
    (h : outcome (runChoices w o e text) r = (.ok (), r')) : ∃ t places rendered, text = some t ∧
      Lists e (splitLines t) places rendered ∧
      Delivered o (resultOf o (joinWith ['\n'] rendered)
        (choicesDocument (splitLines t) places rendered)) r r' := by
  unfold runChoices at h
  cases text with
  | none => cases h
  | some t =>
    obtain ⟨kept, r₁, hfilter, hwork⟩ := exists_of_outcome_bind h
    obtain ⟨hkept, rfl⟩ := outcome_orComplain_eq_ok hfilter
    obtain ⟨rendered, r₂, hrender, hemit⟩ := exists_of_outcome_bind hwork
    obtain ⟨hrendered, rfl⟩ := outcome_orComplain_eq_ok hrender
    have hexpand : ∀ line ∈ splitLines t, ∃ s, e.expand none line = .ok s := fun line hline =>
      Engine.exists_expand_of_filterChoices hkept hline
    rw [Engine.filterChoices_eq_ok hexpand] at hkept
    cases hkept
    refine ⟨t, e.keptPlaces none (splitLines t), rendered, rfl, lists_keptPlaces hrendered, ?_⟩
    have hcount : ((splitLines t).filter (e.shows none)).length =
        (e.keptPlaces none (splitLines t)).length := by
      have hplaces := map_some_filter (e.shows none) (splitLines t)
      simpa [Engine.keptPlaces] using congrArg List.length hplaces
    have hhidden : (others (splitLines t).length (e.keptPlaces none (splitLines t))).length =
        (splitLines t).length - ((splitLines t).filter (e.shows none)).length := by
      rw [hcount]
      exact length_others _ _
    rw [choicesDocument, hhidden]
    rcases emit_cases w o _ _ r₂ with ⟨r₃, hok, hdelivered⟩ | ⟨c, r₃, hcrash⟩
    · cases hok.symm.trans hemit
      exact hdelivered
    · cases hcrash.symm.trans hemit

/-! The whole run. -/

/-- Work that exits with an error code has written no file and printed nothing but perhaps the
help. -/
theorem outcome_perform_exit {w : World} {o : Options} {n : Nat} (hn : n ≠ 0) {r : Report}
    (h : outcome (perform w o) {} = (.error (.exit n), r)) :
    r.written = none ∧ (r.output = [] ∨ r.output = helpText ++ ['\n']) := by
  cases henv : o.env with
  | false =>
    obtain ⟨-, hwritten, houtput⟩ := clean_perform w o henv {} n r h
    have hhelp : ({} : Report).output ++ helpText = helpText := List.nil_append _
    rw [hhelp] at houtput
    exact ⟨hwritten, houtput⟩
  | true =>
    -- the settings are shown in a message, and then the run exits with code 0
    unfold perform at h
    rcases outcome_bind_cases (loadSettings w o) _ {} with
      ⟨settings, r₁, hsettings, hbind⟩ | ⟨stop, r₁, hsettings, hbind⟩
    · rw [hbind] at h
      simp only [henv, if_true] at h
      cases h
      exact absurd rfl hn
    · cases hbind.symm.trans h
      obtain ⟨houtput, hwritten⟩ := (quiet_loadSettings w o).keeps hsettings
      exact ⟨hwritten, .inl houtput⟩

def bareWorld : World where
  tree := ⟨[]⟩
  folder := []
  userSettings := .ofText "/config.json".toList
  input := []

def choicesLine (text : List Char) : List (List Char) :=
  ["--text".toList, text, "--choices".toList]

def choicesOptions (text : List Char) : Options where
  text := some (some text)
  choices := true

theorem given_choices (text : List Char) :
    Given bareWorld (choicesOptions text) {} {} (some text) where
  settings := ⟨none, {}, rfl, rfl, rfl⟩
  state := ⟨{}, [], .empty rfl, rfl⟩
  text := .written rfl

/-- The last of two choices cannot be expanded. -/
def lastFails : List Char := "Stay\n\\ON[x]\x7bGo\x7d".toList

/-- The last of two choices shows nothing. -/
def lastHidden : List Char := "Stay\n\\ON[5]\x7bGo\x7d".toList

end DialogueMarkup.Command
