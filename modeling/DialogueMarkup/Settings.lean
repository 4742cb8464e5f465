import DialogueMarkup.Document.Basic
import DialogueMarkup.Engine

/-!
Settings read from documents. The fields are taken in a fixed order; what was taken before a fault
stays taken.
-/
namespace DialogueMarkup
open Document

namespace Settings

def applyEscape (s : Settings) (fields : List (Document × Document)) :
    Except DataFault Settings :=
  match fieldOf? fields "escape_char".toList with
  | none => .ok s
  | some v =>
    match v.display with
    | [c] => .ok { s with escape := c }
    | _ => .error (.escapeLength v.shownText)

/-- Takes over the ceiling of passes; null lifts it. -/
def applyMaxPasses (s : Settings) (fields : List (Document × Document)) :
    Except DataFault Settings :=
  match fieldOf? fields "max_passes".toList with
  | none => .ok s
  | some v => v.toInt?.map fun n => { s with maxPasses := n }

def applyGrammar (s : Settings) (fields : List (Document × Document)) : Settings :=
  match fieldOf? fields "grammar".toList with
  | none => s
  | some v => { s with grammar := v.truth }

/-- Takes over the fields of a document: the settings reached, and the fault that ended it. -/
def apply (s : Settings) (fields : List (Document × Document)) : Settings × Option DataFault :=
  match s.applyEscape fields with
  | .error fault => (s, some fault)
  | .ok s =>
    match s.applyMaxPasses fields with
    | .error fault => (s, some fault)
    | .ok s => (s.applyGrammar fields, none)

def applied (s : Settings) (fields : List (Document × Document)) : Except DataFault Settings :=
  match s.apply fields with
  | (s, none) => .ok s
  | (_, some fault) => .error fault

end Settings

/-- Takes over the fields of a document while the engine stays open; what it keeps from its opening
stays as it was. -/
def Engine.reconfigure (e : Engine) (fields : List (Document × Document)) :
    Except DataFault Engine :=
  (e.settings.applied fields).map fun settings => { e with settings }

end DialogueMarkup
