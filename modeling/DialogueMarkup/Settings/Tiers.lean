import DialogueMarkup.Document.File
import DialogueMarkup.Settings

/-!
Settings in three tiers: the file of the user, the file of the nearest project folder, and a file
that is asked for. A later tier overrides an earlier one field by field. A user or project file
that cannot be opened, or holds no document, counts as empty; any other fault ends the loading.
-/
namespace DialogueMarkup.Settings
open Document Files Text

def projectFileName : List Char := ".switchtext.config.json".toList

def searchDepth : Nat := 50

structure Resolved where
  settings : Settings := {}
  user : Option Path := none
  project : Option Path := none
  explicit : Option Path := none
  unreadable : List Path := []

inductive LoadFault
  | data (fault : DataFault)
  | file (fault : OpenFault)
  deriving DecidableEq, Repr

def projectPlaces : Nat → Location → List Location
  | 0, _ => []
  | n + 1, folder =>
    (folder ++ [projectFileName]) ::
      (if folder.isEmpty then [] else projectPlaces n folder.dropLast)

def findProject (t : Tree) (folder : Location) : Except OpenFault (Option Path) :=
  ((projectPlaces searchDepth folder).map Path.ofPlace).findM? (t.hasFile [])

/-- The fields of a user or project file; none when it is passed over. -/
def backgroundFields (depth : Nat) (t : Tree) (path : Path) :
    Except DataFault (Option (List (Document × Document))) :=
  match t.read [] path with
  | .error _ => .ok none
  | .ok octets =>
    match readJson depth octets with
    | .ok v => .ok (some (fieldsOrNone v))
    | .error .noDocument => .ok none
    | .error fault => .error fault

def applyBackground (depth : Nat) (r : Resolved) (t : Tree) (path : Path) :
    Except DataFault Resolved := do
  match ← backgroundFields depth t path with
  | some fields => return { r with settings := ← r.settings.applied fields }
  | none => return { r with unreadable := r.unreadable ++ [path] }

def applyUser (depth : Nat) (t : Tree) (path : Path) : Except LoadFault Resolved := do
  if ← (t.hasFile [] path).mapError .file then
    let r ← (applyBackground depth {} t path).mapError .data
    return { r with user := some path }
  return {}

def applyProject (depth : Nat) (r : Resolved) (t : Tree) (folder : Location) :
    Except LoadFault Resolved := do
  match ← (findProject t folder).mapError .file with
  | some path =>
    let r ← (applyBackground depth r t path).mapError .data
    return { r with project := some path }
  | none => return r

def applyExplicit (n : Nesting) (r : Resolved) (t : Tree) (folder : Location) (path : Path) :
    Except LoadFault Resolved := do
  let octets ← (t.read folder path).mapError .file
  let document ← (readFile n path octets).mapError .data
  let settings ← (r.settings.applied (fieldsOrNone document)).mapError .data
  return { r with settings, explicit := some path }

def load (t : Tree) (folder : Location) (user : Path) (explicit : Option Path)
    (n : Nesting := {}) : Except LoadFault Resolved := do
  let r ← applyUser n.json t user
  let r ← applyProject n.json r t folder
  match explicit with
  | none => return r
  | some path => applyExplicit n r t folder path

def Resolved.overview (r : Resolved) : List Char :=
  let pathOr (p : Option Path) (absent : String) : List Char :=
    match p with
    | some p => p.text
    | none => absent.toList
  joinWith ['\n'] [
    "SwitchText Environment".toList,
    List.replicate 50 '=',
    [],
    "  Global config:   ".toList ++ pathOr r.user "(not found)",
    "  Project config:  ".toList ++ pathOr r.project "(not found)",
    "  Explicit config: ".toList ++ pathOr r.explicit "(none)",
    [],
    "  Escape char:     ".toList ++ quoted [r.settings.escape],
    "  Max passes:      ".toList ++ (match r.settings.maxPasses with
      | none => "text length".toList
      | some n => Numeral.write n),
    "  Grammar:         ".toList ++ (if r.settings.grammar then "on" else "off").toList,
    []]

end DialogueMarkup.Settings
