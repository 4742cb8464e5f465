import DialogueMarkup.Document.Basic

/-!
Documents written as JSON: on one line, or on lines indented by two spaces a level.
-/
namespace DialogueMarkup.Document
open Text

/-- A character of a text in quotes; only what has to be escaped is. -/
def escapedChar (c : Char) : List Char :=
  if c = '"' ∨ c = '\\' then ['\\', c]
  else if c = '\n' then ['\\', 'n']
  else if c = '\r' then ['\\', 'r']
  else if c = '\t' then ['\\', 't']
  else if c = '\x08' then ['\\', 'b']
  else if c = '\x0c' then ['\\', 'f']
  else if c.toNat < 32 then '\\' :: 'u' :: hexadecimal 4 c.toNat
  else [c]

def writeText (s : List Char) : List Char := '"' :: (s.flatMap escapedChar ++ ['"'])

/-- What stands around and between the entries of a list or an object. -/
structure Layout where
  /-- after the opening bracket and before the first entry of a level -/
  first : Nat → List Char
  /-- between entries of a level -/
  between : Nat → List Char
  /-- after the last entry, before the closing bracket -/
  last : Nat → List Char
  colon : List Char

def newLine (level : Nat) : List Char := '\n' :: List.replicate (2 * level) ' '

def Layout.oneLine : Layout := ⟨fun _ => [], fun _ => [','], fun _ => [], [':']⟩

def Layout.indented : Layout :=
  ⟨fun n => newLine (n + 1), fun n => ',' :: newLine (n + 1), newLine, [':', ' ']⟩

mutual

def writeAt (layout : Layout) (level : Nat) : Document → List Char
  | null => "null".toList
  | bool b => if b then "true".toList else "false".toList
  | int n => Numeral.write n
  | real x => x.write
  | text s => writeText s
  | codes points => writeText (points.map Char.ofNat)
  | moment m => writeText m.write
  | list [] => ['[', ']']
  | list (v :: rest) =>
    '[' :: (layout.first level ++ writeAt layout (level + 1) v ++
      writeItems layout level rest ++ layout.last level ++ [']'])
  | object [] => ['{', '}']
  | object ((key, v) :: rest) =>
    '{' :: (layout.first level ++ writeText key.display ++ layout.colon ++
      writeAt layout (level + 1) v ++ writeFields layout level rest ++ layout.last level ++ ['}'])

def writeItems (layout : Layout) (level : Nat) : List Document → List Char
  | [] => []
  | v :: rest =>
    layout.between level ++ writeAt layout (level + 1) v ++ writeItems layout level rest

def writeFields (layout : Layout) (level : Nat) : List (Document × Document) → List Char
  | [] => []
  | (key, v) :: rest =>
    layout.between level ++ writeText key.display ++ layout.colon ++ writeAt layout (level + 1) v ++
      writeFields layout level rest

end

def write (v : Document) : List Char := writeAt .oneLine 0 v

def writeIndented (v : Document) : List Char := writeAt .indented 0 v

end DialogueMarkup.Document
