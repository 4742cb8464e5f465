import DialogueMarkup.Document.Yaml
import DialogueMarkup.Files.Tree

/-!
Documents in files. A file with the suffix `.yaml` or `.yml` is in YAML, any other in JSON; both
are UTF-8, and every line break is read as a line feed.
-/
namespace DialogueMarkup.Document
open Text Files

def readText (octets : List UInt8) : Except DataFault (List Char) :=
  match Utf8.decode octets with
  | some s => .ok (unifyBreaks s)
  | none => .error .noText

/-- How deep the document in a file may nest. It is what the stack has left where the file is
read. -/
structure Nesting where
  json : Nat := Json.usualDepth
  yaml : Nat := Yaml.Node.usualDepth

def readJson (depth : Nat) (octets : List UInt8) : Except DataFault Document := do
  Json.parse (← readText octets) depth

def isYaml (p : Path) : Bool :=
  p.suffix == ".yaml".toList || p.suffix == ".yml".toList

def readFile (n : Nesting) (p : Path) (octets : List UInt8) : Except DataFault Document := do
  let s ← readText octets
  if isYaml p then Yaml.parse s n.yaml else Json.parse s n.json

def fieldsOrNone : Document → List (Document × Document)
  | object fields => fields
  | _ => []

end DialogueMarkup.Document
