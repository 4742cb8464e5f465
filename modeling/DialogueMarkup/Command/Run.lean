import DialogueMarkup.Command.Options
import DialogueMarkup.Command.Overrides
import DialogueMarkup.Console.Styled
import DialogueMarkup.Document.Writer
import DialogueMarkup.Settings.Tiers
import DialogueMarkup.State.File
import DialogueMarkup.Summary

/-!
The command: it renders a text against a state, tells whether it expands to nothing, filters
choices, or lists what it depends on. Everything that it reads is given, and everything that it
prints or writes is in its outcome.
-/
namespace DialogueMarkup.Command
open Text Files Console

structure World where
  tree : Tree
  folder : Location
  userSettings : Path
  input : List Char
  settingsNesting : Document.Nesting := {}
  stateNesting : Document.Nesting := {}

inductive Crash
  | numeral (fault : NumeralFault)
  | data (fault : DataFault)
  | file (fault : OpenFault)
  /-- a path in a message holds tags that do not fit -/
  | styles (fault : StyleFault)
  /-- two dashes stand where the path of a file is needed -/
  | noPath
  /-- two dashes stand for a text whose lines are needed -/
  | noLines
  /-- two dashes stand for a text that is to be searched -/
  | noText
  deriving DecidableEq, Repr

def Crash.message : Crash → List Char
  | numeral fault => Numeral.message fault
  | data fault => fault.message
  | file fault => fault.message
  | styles (.numeral fault) => Numeral.message fault
  | styles _ => "a path holds tags that do not fit".toList
  | noPath => "the path of a file was expected".toList
  | noLines => "lines were expected".toList
  | noText => "a text was expected".toList

inductive Stop
  | exit (code : Nat)
  | crash (c : Crash)
  deriving DecidableEq, Repr

structure Report where
  output : List Char := []
  errors : List Char := []
  written : Option (Path × List Char) := none

/-- A step of a run. What it reports stays when it stops. -/
abbrev Job := ExceptT Stop (StateM Report)

namespace Job

def crash {α : Type} (c : Crash) : Job α := throw (.crash c)

def exit {α : Type} (code : Nat) : Job α := throw (.exit code)

def orCrash {α ε : Type} (f : ε → Crash) : Except ε α → Job α
  | .ok a => pure a
  | .error e => crash (f e)

def print (s : List Char) : Job Unit :=
  modify fun r => { r with output := r.output ++ s ++ ['\n'] }

def note (s : List Char) : Job Unit :=
  modify fun r => { r with errors := r.errors ++ s ++ ['\n'] }

def notify (s : List Char) : Job Unit :=
  match showStyled s with
  | .ok s => note s
  | .error fault => crash (.styles fault)

def complain (s : List Char) : Job Unit := notify ("[err]✖ ".toList ++ s ++ "[/]".toList)

def warn (s : List Char) : Job Unit := notify ("[warn]⚠ ".toList ++ s ++ "[/]".toList)

end Job

open Job

def styledPath (s : List Char) : List Char :=
  "[bright_cyan]'".toList ++ s ++ "'[/]".toList

def pathOf : Option Path → Job Path
  | some p => pure p
  | none => crash .noPath

def isThere (w : World) (p : Path) : Job Bool := orCrash .file (w.tree.hasFile w.folder p)

/-- Faults of a settings or state file that are answered with a message. -/
def isReported : DataFault → Bool
  | .noFields | .tooDeep | .infiniteReal | .noCodePoint | .emptyNumber | .noMoment => false
  | _ => true

def loadSettings (w : World) (o : Options) : Job Settings.Resolved := do
  let path? ← o.config.mapM pathOf
  path?.forM fun p => do
    if !(← isThere w p) then
      complain ("Config file ".toList ++ styledPath p.text ++ " not found.".toList)
      exit 1
  match Settings.load w.tree w.folder w.userSettings path? w.settingsNesting with
  | .ok r =>
    r.unreadable.forM fun path =>
      note ("WARNING  Ignoring unreadable config ".toList ++ path.text)
    return if o.noGrammar then { r with settings := { r.settings with grammar := false } } else r
  | .error (.file fault) =>
    complain ("Invalid config: ".toList ++ escape fault.message)
    exit 1
  | .error (.data fault) =>
    if isReported fault then
      complain ("Invalid config: ".toList ++ escape fault.message)
      exit 1
    crash (.data fault)

def loadTextFile (w : World) (name : List Char) : Job (List Char) := do
  if !(← isThere w (.ofText name)) then
    complain ("Text file ".toList ++ styledPath name ++ " not found.".toList)
    exit 1
  let octets ← orCrash .file (w.tree.read w.folder (.ofText name))
  orCrash .data (Document.readText octets)

/-- The text to be worked on; none when the line names no text. -/
def loadText (w : World) (o : Options) : Job (Option Value) := do
  match o.text with
  | some s => return some s
  | none =>
    if o.stdin then return some (some (unifyBreaks w.input))
    match o.textFile with
    | none => return none
    | some [] => return none
    | some name => (some ∘ some) <$> loadTextFile w name

def loadState (w : World) (o : Options) : Job State := do
  match ← o.state.mapM pathOf with
  | none => return {}
  | some p =>
    if !(← isThere w p) then
      complain ("State file ".toList ++ styledPath p.text ++ " not found.".toList)
      exit 1
    let invalid (message : List Char) : Job State := do
      complain ("Invalid state file ".toList ++ styledPath p.text ++ ": ".toList ++
        escape message)
      exit 1
    match w.tree.read w.folder p with
    | .error fault => invalid fault.message
    | .ok octets =>
      match State.ofFile p octets w.stateNesting with
      | .ok st => return st
      | .error fault => if isReported fault then invalid fault.message else crash (.data fault)

def applyOverrides (o : Options) (st : State) : Job State := do
  let ((st, remarks), fault?) := overrideAll st o.switches o.vars o.selfSwitches
  remarks.forM fun r =>
    warn ("Ignoring malformed ".toList ++ r.option ++ " '".toList ++ escape r.item ++
      "' (".toList ++ r.fault.wording ++ ")".toList)
  match fault? with
  | some (.numeral fault) => crash (.numeral fault)
  | some .noItem => crash .noText
  | none => return st

def emit (w : World) (o : Options) (text : List Char) (data : Document) : Job Unit := do
  let result := if o.json then data.writeIndented else text
  match o.output with
  | none => print result
  | some p =>
    match w.tree.writable w.folder p with
    | .error fault => crash (.file fault)
    | .ok _ =>
      modify fun r => { r with written := some (p, result) }
      notify ("[success]✔ Wrote[/] [bright_cyan]".toList ++ p.text ++ "[/]".toList)

def summaryDocument (m : Summary) : Document :=
  let texts (xs : List (List Char)) : Document := .list (xs.map .text)
  let ints (xs : List Int) : Document := .list (xs.map .int)
  .ofFields [
    ("directive_count", .int m.directiveCount),
    ("opcodes", .object (m.opcodes.map fun e => (.text e.1.name, .int e.2))),
    ("switches", ints m.switches),
    ("variables", ints m.vars),
    ("self_switches", texts m.selfSwitches),
    ("self_references", texts m.selfReferences),
    ("party_conditions", texts m.partyConditions),
    ("grammar_codes", texts m.grammarCodes),
    ("brace_escapes", .int m.braceEscapes),
    ("problems", texts m.problems)]

def runScan (w : World) (o : Options) (settings : Settings) (text : Value) : Job Unit := do
  let some text := text | crash .noText
  let m ← orCrash .numeral (Summary.ofText settings.escape text)
  let data := summaryDocument m
  emit w o data.writeIndented data

def orComplain {α : Type} : Except Fault α → Job α
  | .ok a => pure a
  | .error (.numeral fault) => crash (.numeral fault)
  | .error fault => do
    complain (fault.title?.getD [] ++ ": ".toList ++ escape fault.message)
    exit 2

def runChoices (w : World) (o : Options) (e : Engine) (text : Value) : Job Unit := do
  let some text := text | crash .noLines
  let lines := splitLines text
  let kept ← orComplain (e.filterChoices none lines (-1) 0)
  let rendered ← orComplain (kept.choices.mapM (e.render none))
  emit w o (joinWith ['\n'] rendered) (.ofFields [
    ("choices", .list (rendered.map .text)),
    ("branch_indices", .list (kept.branches.map fun (n : Nat) => .int n)),
    ("hidden", .int (lines.length - kept.choices.length : Nat))])

/-- Renders the text, or tells whether it expands to nothing. Two dashes render as nothing. -/
def runRender (w : World) (o : Options) (e : Engine) (source : Value) : Job Unit := do
  let text := source.getD []
  if o.checkEmpty then
    let empty ← orComplain (e.isEmpty none text)
    emit w o (if empty then "true" else "false").toList
      (.ofFields [("empty", .bool empty)])
  else
    let output ← orComplain (e.render none text)
    let input : Document := match source with
      | some text => .text text
      | none => .list []
    emit w o output (.ofFields [("input", input), ("output", .text output)])

def perform (w : World) (o : Options) : Job Unit := do
  let r ← loadSettings w o
  if o.env then
    note (showPlain r.overview)
    exit 0
  match ← loadText w o with
  | none =>
    print helpText
    exit 1
  | some text =>
    if o.scan then runScan w o r.settings text
    else
      if o.verbose then note "Loading state…".toList
      let st ← applyOverrides o (← loadState w o)
      if o.ui then
        complain "The live preview is not available.".toList
        exit 1
      let e := Engine.open st r.settings
      if o.choices then runChoices w o e text else runRender w o e text

structure Outcome where
  stop : Stop
  report : Report

def run (w : World) (argv : List (List Char)) : Outcome :=
  match Options.parse argv with
  | .error .help => ⟨.exit 0, { output := helpText }⟩
  | .error .usage => ⟨.exit 2, { errors := "usage: see --help\n".toList }⟩
  | .ok o =>
    match (perform w o).run.run {} with
    | (.ok (), report) => ⟨.exit 0, report⟩
    | (.error stop, report) => ⟨stop, report⟩

end DialogueMarkup.Command
