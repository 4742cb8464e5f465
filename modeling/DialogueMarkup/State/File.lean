import DialogueMarkup.Document.File
import DialogueMarkup.State.Loading

/-!
States in files. A file that holds a document other than an object gives the state in which
nothing is set.
-/
namespace DialogueMarkup.State
open Document Files

def ofFile (p : Path) (octets : List UInt8) (n : Nesting := {}) : Except DataFault State := do
  match ← readFile n p octets with
  | .object fields => State.ofDocument (.object fields)
  | _ => return {}

end DialogueMarkup.State
