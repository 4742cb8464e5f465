import DialogueMarkup.Files.Path
import DialogueMarkup.Text.Utf8

/-!
Trees of files: what stands at each place below the root, and how a path leads to a place. Every
component of a path is looked up in a folder.
-/
namespace DialogueMarkup.Files

abbrev Location := List (List Char)

inductive Entry
  | file (octets : List UInt8)
  | folder
  deriving DecidableEq, Repr

/-- Files and folders; folders above a file or a folder need not be listed. -/
structure Tree where
  entries : List (Location × Entry)

inductive OpenFault
  | missing
  | notFolder
  | isFolder
  | nameTooLong
  | nullCharacter
  deriving DecidableEq, Repr

def OpenFault.message : OpenFault → List Char
  | missing => "the file does not exist".toList
  | notFolder => "a file stands in place of a folder".toList
  | isFolder => "a folder stands in place of the file".toList
  | nameTooLong => "the name is too long".toList
  | nullCharacter => "embedded null byte".toList

/-- The place one component further; a step up goes to the folder above. -/
def step (folder : Location) (name : List Char) : Location :=
  if name = ['.', '.'] then folder.dropLast else folder ++ [name]

/-- The place that a path names, seen from a folder, whatever stands on the way. -/
def Path.place (folder : Location) (p : Path) : Location :=
  p.components.foldl step (if p.root.isEmpty then folder else [])

def Path.ofPlace (place : Location) : Path := ⟨['/'], place⟩

namespace Tree

def maxName : Nat := 255

def maxPath : Nat := 4095

def at? (t : Tree) (place : Location) : Option Entry :=
  match t.entries.lookup place with
  | some e => some e
  | none =>
    if place.isEmpty || t.entries.any (fun e => place.isPrefixOf e.1) then some .folder else none

def follow (t : Tree) (place : Location) : List (List Char) → Except OpenFault Location
  | [] => .ok place
  | name :: rest =>
    match t.at? place with
    | none => .error .missing
    | some (.file _) => .error .notFolder
    | some .folder =>
      if maxName < (Text.Utf8.encode name).length then .error .nameTooLong
      else t.follow (step place name) rest

def locate (t : Tree) (folder : Location) (p : Path) : Except OpenFault Location :=
  if p.text.contains '\x00' then .error .nullCharacter
  else if maxPath < (Text.Utf8.encode p.text).length then .error .nameTooLong
  else t.follow (if p.root.isEmpty then folder else []) p.components

def read (t : Tree) (folder : Location) (p : Path) : Except OpenFault (List UInt8) := do
  match t.at? (← t.locate folder p) with
  | none => throw .missing
  | some .folder => throw .isFolder
  | some (.file octets) => return octets

def hasFile (t : Tree) (folder : Location) (p : Path) : Except OpenFault Bool :=
  match t.read folder p with
  | .ok _ => .ok true
  | .error .nameTooLong => .error .nameTooLong
  | .error _ => .ok false

def writable (t : Tree) (folder : Location) (p : Path) : Except OpenFault Location := do
  let place ← t.locate folder p
  if t.at? place = some .folder then throw .isFolder
  return place

end Tree
end DialogueMarkup.Files
