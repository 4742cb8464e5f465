import DialogueMarkup.Console.Cell
import DialogueMarkup.Console.Emoji
import DialogueMarkup.Console.Literal
import DialogueMarkup.Console.Style

/-!
Styled text of the console: tags in brackets set a style, `[/]` ends the last one and `[/name]` a
named one; a backslash in front of a tag makes it plain text. Tags whose name begins with `@` hold
actions.
-/
namespace DialogueMarkup.Console
open Text

structure Tag where
  backslashes : Nat
  body : List Char
  deriving DecidableEq, Repr

def isTagStart (c : Char) : Bool :=
  ('a' ≤ c && c ≤ 'z') || c == '#' || c == '/' || c == '@'

/-- Reads a tag: its body begins with a small letter or a sign and holds no bracket. -/
def readTag : Reader Tag := fun s =>
  let rest := s.dropWhile (· == '\\')
  match rest with
  | '[' :: c :: rest =>
    let tail := rest.takeWhile fun d => d != '[' && d != ']'
    match rest.dropWhile fun d => d != '[' && d != ']' with
    | ']' :: after =>
      if isTagStart c then some (⟨(s.takeWhile (· == '\\')).length, c :: tail⟩, after) else none
    | _ => none
  | _ => none

def Tag.text (t : Tag) : List Char := '[' :: (t.body ++ [']'])

def escape (s : List Char) : List Char :=
  let s := replaceMarks readTag
    (fun t => List.replicate (2 * t.backslashes + 1) '\\' ++ t.text) s
  match s.reverse with
  | ['\\'] => s ++ ['\\']
  | '\\' :: c :: _ => if c = '\\' then s else s ++ ['\\']
  | _ => s

structure Label where
  name : List Char
  parameters : List Char

def Label.ofBody (body : List Char) : Label :=
  ⟨body.takeWhile (· != '='), (body.dropWhile (· != '=')).drop 1⟩

inductive StyleFault
  /-- a tag closes a style that is not open -/
  | notOpen
  /-- the parameters of an action are no values -/
  | badAction
  /-- a share of a colour is no number -/
  | numeral (fault : NumeralFault)
  deriving DecidableEq, Repr

/-- Splits off the innermost style of a name; no name means any. -/
def close? (name : List Char) : List Label → Option (Label × List Label)
  | [] => none
  | label :: rest =>
    if name.isEmpty ∨ label.name = name then some (label, rest)
    else (close? name rest).map fun r => (r.1, label :: r.2)

def actionValues (parameters : List Char) : List Char :=
  let parameters := trim parameters
  let rest := parameters.dropWhile fun c => isWordCharacter c || c == '.'
  if rest.isEmpty then ['(', ')']
  else if 2 ≤ rest.length ∧ rest.head? = some '(' ∧ rest.getLast? = some ')' ∧ '\n' ∉ rest then
    rest
  else parameters

/-- Ends a style; an action has to have values for parameters. -/
def Label.ends (label : Label) : Except StyleFault Unit :=
  if label.name.head? = some '@' ∧ !label.parameters.isEmpty ∧
      !isLiteral (actionValues label.parameters) then .error .badAction
  else .ok ()

def tagged (styles : List Label) (body : List Char) : Except StyleFault (List Label) :=
  let label := Label.ofBody body
  match label.name with
  | '/' :: name => do
    let name ← if isBlankText name then pure []
      else (Style.normalName (trim name)).mapError .numeral
    match close? name styles with
    | some (label, styles) =>
      label.ends
      return styles
    | none => throw .notOpen
  | name => do
    return { label with name := ← (Style.normalName name).mapError .numeral } :: styles

/-- A bracket after a backslash that begins no tag loses the backslash. -/
def plainBrackets : List Char → List Char
  | [] => []
  | '\\' :: '[' :: s => '[' :: plainBrackets s
  | c :: s => c :: plainBrackets s

/-- The plain text of pieces. `plain` holds the characters since the last tag, the last one
first. -/
def plainPieces (styles : List Label) (plain : List Char) :
    List (Piece Tag) → Except StyleFault (List Char)
  | [] => .ok (replaceEmoji (plainBrackets plain.reverse))
  | .char c :: rest => plainPieces styles (c :: plain) rest
  | .mark t :: rest => do
    let front := replaceEmoji (plainBrackets plain.reverse) ++
      List.replicate (t.backslashes / 2) '\\'
    if t.backslashes % 2 = 1 then
      return front ++ replaceEmoji t.text ++ (← plainPieces styles [] rest)
    let styles ← tagged styles t.body
    return front ++ (← plainPieces styles [] rest)

def isUnprinted (c : Char) : Bool :=
  c == '\x07' || c == '\x08' || c == '\x0b' || c == '\x0c' || c == '\r'

def printed (s : List Char) : List Char := s.filter fun c => !isUnprinted c

/-- Tabs as spaces up to the next multiple of eight cells. -/
def expandTabs (column : Column) : List Char → List Char
  | [] => []
  | c :: s =>
    if c = '\n' then c :: expandTabs (.start 0) s
    else if c = '\t' then
      let column := column.after ' '
      let missing := (8 - column.cells % 8) % 8
      List.replicate (1 + missing) ' ' ++ expandTabs (.start (column.cells + missing)) s
    else c :: expandTabs (column.after c) s

def layOut (s : List Char) : List Char := expandTabs (.start 0) (printed s)

def showPlain (s : List Char) : List Char := layOut (replaceEmoji s)

def showStyled (s : List Char) : Except StyleFault (List Char) :=
  (plainPieces [] [] (pieces readTag s)).map layOut

end DialogueMarkup.Console
