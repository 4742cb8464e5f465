import DialogueMarkup.Document.Basic

/-!
Places in a sheet, and the classes of characters that matter there. What reads at a place moves on
to the place behind what it has read.
-/
namespace DialogueMarkup.Document.Yaml

def isAllowed (c : Char) : Bool :=
  c == '\t' || c == '\n' || c == '\r' || (' ' ≤ c && c ≤ '~') || c.toNat == 0x85 ||
    (0xA0 ≤ c.toNat && c.toNat ≤ 0xFFFD) || 0x10000 ≤ c.toNat

def isBreak (c : Char) : Bool :=
  c == '\n' || c.toNat == 0x85 || c.toNat == 0x2028 || c.toNat == 0x2029

def endsLine (c? : Option Char) : Bool := c?.all isBreak

def endsWord (c? : Option Char) : Bool := c?.all fun c => c == ' ' || c == '\t' || isBreak c

def endsName (c? : Option Char) : Bool := c?.all fun c => c == ' ' || isBreak c

def isNameCharacter (c : Char) : Bool := c.isAlphanum || c == '-' || c == '_'

def isTriple (mark : Char) (s : List Char) : Bool :=
  s.take 3 == [mark, mark, mark] && endsWord (s.drop 3).head?

def isDocumentMark (s : List Char) : Bool := isTriple '-' s || isTriple '.' s

structure Cursor where
  rest : List Char
  index : Nat := 0
  line : Nat := 0
  column : Nat := 0
  deriving Repr

namespace Cursor

def head? (place : Cursor) : Option Char := place.rest.head?

/-- The place one character on. The mark of the byte order takes no column. -/
def next (place : Cursor) : Cursor :=
  match place.rest with
  | [] => place
  | c :: rest =>
    if isBreak c then ⟨rest, place.index + 1, place.line + 1, 0⟩
    else if c = '\ufeff' then ⟨rest, place.index + 1, place.line, place.column⟩
    else ⟨rest, place.index + 1, place.line, place.column + 1⟩

def skip : Nat → Cursor → Cursor
  | 0, place => place
  | n + 1, place => skip n place.next

end Cursor

abbrev Scan := StateT Cursor (Except DataFault)

namespace Scan

def stray {α : Type} : Scan α := throw (.sheet .token)

def peek : Scan (Option Char) := return (← get).head?

def rest : Scan (List Char) := return (← get).rest

def column : Scan Nat := return (← get).column

def skip (n : Nat) : Scan Unit := modify (Cursor.skip n)

def takeWhile (p : Char → Bool) : Scan (List Char) := do
  let word := (← rest).takeWhile p
  skip word.length
  return word

def skipSpacesTo (column : Nat) : Scan Unit := do
  let place ← get
  let spaces := (place.rest.takeWhile (· == ' ')).length
  skip (min spaces (column - place.column))

def skipSpaces : Scan Unit := discard (takeWhile (· == ' '))

/-- Takes a break, if one is there; breaks of a line are line feeds, those of a paragraph are
kept. -/
def lineBreak? : Scan (Option Char) := do
  match ← peek with
  | some c =>
    if isBreak c then
      skip 1
      return some (if c.toNat = 0x85 then '\n' else c)
    else return none
  | none => return none

def skipComment : Scan Unit := do
  if (← peek) = some '#' then discard (takeWhile fun c => !isBreak c)

def endLine : Scan Unit := do
  skipSpaces
  skipComment
  if !endsLine (← peek) then stray
  discard lineBreak?

/-- Leaves out spaces, comments and breaks; whether there was a break. -/
def skipGap : Nat → Scan Bool
  | 0 => return false
  | fuel + 1 => do
    skipSpaces
    skipComment
    if (← lineBreak?).isSome then
      discard (skipGap fuel)
      return true
    else return false

end Scan
end DialogueMarkup.Document.Yaml
