import DialogueMarkup.Document.Yaml.Cursor
import DialogueMarkup.Document.Json

/-!
The texts of scalars: plain ones, those in quotes, and blocks of indented lines. A break inside a
plain or quoted text is folded into a space, several into all but one; lone halves of pairs may
come from escapes.
-/
namespace DialogueMarkup.Document.Yaml
open Scan

/-- The folded form of a gap with a break: the first break and those after it. -/
def foldBreaks (first : Char) (more : List Char) : List Char :=
  if first ≠ '\n' then first :: more else if more.isEmpty then [' '] else more

def plainWord (inFlow : Bool) : List Char → List Char
  | [] => []
  | c :: s =>
    let next := s.head?
    let ends := endsWord next ∨ (inFlow ∧ next.any fun d => ",[]\x7b\x7d".toList.contains d)
    if endsWord (some c) then []
    else if c = ':' ∧ ends then []
    else if inFlow ∧ ",?[]\x7b\x7d".toList.contains c then []
    else c :: plainWord inFlow s

/-- Takes breaks and spaces: the breaks, and whether a mark of documents ends them. -/
def plainBreaks : Nat → Scan (List Char × Bool)
  | 0 => return ([], false)
  | fuel + 1 => do
    skipSpaces
    match ← lineBreak? with
    | none => return ([], false)
    | some c =>
      if isDocumentMark (← rest) then return ([c], true)
      let (more, ended) ← plainBreaks fuel
      return (c :: more, ended)

/-- Takes the gap after a word of a plain scalar: what it stands for, nothing if the scalar ends,
and whether there was a break. -/
def plainGap : Scan (List Char × Bool) := do
  let spaces ← takeWhile (· == ' ')
  match ← lineBreak? with
  | none => return (spaces, false)
  | some first =>
    if isDocumentMark (← rest) then return ([], true)
    let (more, ended) ← plainBreaks ((← rest).length + 1)
    return (if ended then [] else foldBreaks first more, true)

/-- Takes a plain scalar that is indented to a column: its text after a gap, and whether it ended
behind a break. -/
def plainFrom (indent : Nat) (inFlow : Bool) :
    Nat → List Char → Bool → Scan (List Char × Bool)
  | 0, _, broken => return ([], broken)
  | fuel + 1, gap, broken => do
    let s ← rest
    let word := plainWord inFlow s
    if s.head? = some '#' ∨ word.isEmpty then return ([], broken)
    skip word.length
    let (next, broken) ← plainGap
    let c? ← peek
    let outside := !inFlow && (← column) < indent
    if next.isEmpty ∨ c? = some '#' ∨ outside then return (gap ++ word, broken)
    let (more, broken) ← plainFrom indent inFlow fuel next broken
    return (gap ++ word ++ more, broken)

def plain (indent : Nat) (inFlow : Bool) : Scan (List Char × Bool) := do
  plainFrom indent inFlow ((← rest).length + 1) [] false

def quotedBreaks : Nat → Scan (List Char)
  | 0 => return []
  | fuel + 1 => do
    if isDocumentMark (← rest) then stray
    discard (takeWhile fun c => c == ' ' || c == '\t')
    match ← lineBreak? with
    | some c => return c :: (← quotedBreaks fuel)
    | none => return []

def quotedGap : Scan (List Char) := do
  let blanks ← takeWhile fun c => c == ' ' || c == '\t'
  match ← lineBreak? with
  | some first => return foldBreaks first (← quotedBreaks ((← rest).length + 1))
  | none => return blanks

def letterEscape? (c : Char) : Option Nat :=
  [('0', 0x00), ('a', 0x07), ('b', 0x08), ('t', 0x09), ('\t', 0x09), ('n', 0x0A), ('v', 0x0B),
    ('f', 0x0C), ('r', 0x0D), ('e', 0x1B), (' ', 0x20), ('"', 0x22), ('\\', 0x5C), ('/', 0x2F),
    ('N', 0x85), ('_', 0xA0), ('L', 0x2028), ('P', 0x2029)].lookup c

def escapeDigits? (c : Char) : Option Nat := [('x', 2), ('u', 4), ('U', 8)].lookup c

def hexadecimalCode (count : Nat) : Scan Nat := do
  let digits := ((← rest).take count).filterMap Json.hexDigit?
  if digits.length < count then stray
  let n := digits.foldl (16 * · + ·) 0
  if 0x7FFFFFFF < n then throw .noCodePoint
  if 0x10FFFF < n then throw .noCharacter
  skip count
  return n

def escapeCodes : Scan (List Nat) := do
  match ← peek with
  | none => stray
  | some c =>
    if isBreak c then
      discard lineBreak?
      return (← quotedBreaks ((← rest).length + 1)).map Char.toNat
    skip 1
    match letterEscape? c, escapeDigits? c with
    | some n, _ => return [n]
    | none, some count => return [← hexadecimalCode count]
    | none, none => stray

/-- Takes the rest of a text between two marks: quotation marks, with escapes, or apostrophes, which
are written twice inside. -/
def quotedFrom (mark : Char) : Nat → Scan (List Nat)
  | 0 => stray
  | fuel + 1 => do
    match ← rest with
    | [] => stray
    | c :: s =>
      if c = mark then
        if mark = '\x27' ∧ s.head? = some mark then
          skip 2
          return mark.toNat :: (← quotedFrom mark fuel)
        skip 1
        return []
      else if endsWord (some c) then
        let gap ← quotedGap
        if (← peek).isNone then stray
        return gap.map Char.toNat ++ (← quotedFrom mark fuel)
      else if mark = '"' ∧ c = '\\' then
        skip 1
        let points ← escapeCodes
        return points ++ (← quotedFrom mark fuel)
      else
        skip 1
        return c.toNat :: (← quotedFrom mark fuel)

def quotedText (mark : Char) : Scan (List Nat) := do
  skip 1
  quotedFrom mark ((← rest).length + 1)

/-- How the end of a block is kept: one break, none, or all. -/
inductive Chomping
  | clip | strip | keep
  deriving DecidableEq, Repr

def chomping? : Scan (Option Chomping) := do
  match ← peek with
  | some '+' => skip 1; return some .keep
  | some '-' => skip 1; return some .strip
  | _ => return none

def indentation? : Scan (Option Nat) := do
  match ← peek with
  | some c =>
    if c = '0' then stray
    if !c.isDigit then return none
    skip 1
    return some (c.toNat - '0'.toNat)
  | none => return none

def blockSigns : Scan (Chomping × Option Nat) := do
  let first ← chomping?
  let indent ← indentation?
  let last ← if first.isNone && indent.isSome then chomping? else pure none
  if !endsName (← peek) then stray
  return ((first <|> last).getD .clip, indent)

def blockStart : Nat → Nat → Scan (List Char × Nat)
  | 0, widest => return ([], widest)
  | fuel + 1, widest => do
    skipSpaces
    let widest := max widest (← column)
    match ← lineBreak? with
    | some c =>
      let (more, widest) ← blockStart fuel widest
      return (c :: more, widest)
    | none => return ([], widest)

def blockBreaks (indent : Nat) : Nat → Scan (List Char)
  | 0 => return []
  | fuel + 1 => do
    skipSpacesTo indent
    match ← lineBreak? with
    | some c => return c :: (← blockBreaks indent fuel)
    | none => return []

/-- Takes the lines of a block after empty ones: the text, the last break, and the empty lines at
the end. -/
def blockLines (folded : Bool) (indent : Nat) :
    Nat → List Char → Scan (List Char × List Char × List Char)
  | 0, breaks => return ([], [], breaks)
  | fuel + 1, breaks => do
    let isBlankHead (c? : Option Char) : Bool := c? == some ' ' || c? == some '\t'
    let spaced := isBlankHead (← peek)
    let line ← takeWhile fun c => !isBreak c
    let last := (← lineBreak?).toList
    let more ← blockBreaks indent ((← rest).length + 1)
    let next ← peek
    if (← column) = indent ∧ next.isSome then
      let joint :=
        if folded && last == ['\n'] && !spaced && !isBlankHead next then
          if more.isEmpty then [' '] else []
        else last
      let (lines, last, tail) ← blockLines folded indent fuel more
      return (breaks ++ line ++ joint ++ lines, last, tail)
    else return (breaks ++ line, last, more)

def block (folded : Bool) (least : Nat) : Scan (List Char) := do
  skip 1
  let (chomping, signed?) ← blockSigns
  endLine
  let least := max least 1
  let fuel := (← rest).length + 1
  let (breaks, indent) ← match signed? with
    | some n =>
      let indent := least + n - 1
      pure (← blockBreaks indent fuel, indent)
    | none => do
      let (breaks, widest) ← blockStart fuel 0
      pure (breaks, max least widest)
  let (lines, last, tail) ←
    if (← column) = indent ∧ (← peek).isSome then blockLines folded indent fuel breaks
    else pure ([], [], breaks)
  return match chomping with
    | .strip => lines
    | .clip => lines ++ last
    | .keep => lines ++ last ++ tail

end DialogueMarkup.Document.Yaml
