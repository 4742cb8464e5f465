import DialogueMarkup.Document.Yaml.ScalarText
import DialogueMarkup.Document.Yaml.Token

/-!
The tokens of a sheet, one after the other. Indentation opens and closes collections. A colon may
make a key of what stands in front of it, so tokens are held back while one of them may still begin
a key: a key ends on its line, within `maxKeyLength` characters.
-/
namespace DialogueMarkup.Document.Yaml

def maxKeyLength : Nat := 1024

structure KeyStart where
  token : Nat
  /-- what stands there has to be a key -/
  required : Bool
  place : Cursor
  deriving Repr

structure Lexer where
  place : Cursor
  queue : List Token := []
  taken : Nat := 0
  done : Bool := false
  /-- the column of the innermost block collection; -1 outside of all -/
  indent : Int := -1
  indents : List Int := []
  /-- how many flow collections are open; below zero when more were closed than opened -/
  flow : Int := 0
  mayBeginKey : Bool := true
  keys : List (Int × KeyStart) := []
  deriving Repr

abbrev Lex := StateT Lexer (Except DataFault)

namespace Lex

def stray {α : Type} : Lex α := throw (.sheet .token)

def scan {α : Type} (read : Scan α) : Lex α := do
  let (a, place) ← read.run (← get).place
  modify fun l => { l with place }
  return a

def push (t : Token) : Lex Unit := modify fun l => { l with queue := l.queue ++ [t] }

def allowKey (b : Bool) : Lex Unit := modify fun l => { l with mayBeginKey := b }

def column : Lex Int := return (← get).place.column

def inFlow : Lex Bool := return (← get).flow != 0

def dropStaleKeys : Lex Unit := do
  let l ← get
  let isStale (k : KeyStart) : Bool :=
    k.place.line != l.place.line || maxKeyLength < l.place.index - k.place.index
  if l.keys.any fun k => isStale k.2 && k.2.required then stray
  set { l with keys := l.keys.filter fun k => !isStale k.2 }

def dropKey : Lex Unit := do
  let l ← get
  if l.keys.any fun k => k.1 == l.flow && k.2.required then stray
  set { l with keys := l.keys.filter fun k => k.1 != l.flow }

def noteKey : Lex Unit := do
  let l ← get
  if l.mayBeginKey then
    dropKey
    let start := ⟨l.taken + l.queue.length, l.flow == 0 && l.indent == l.place.column, l.place⟩
    modify fun l => { l with keys := (l.flow, start) :: l.keys }

/-- The innermost column and those around it that are left when the ones beyond a column are
closed, and how many are. -/
def popTo (column indent : Int) : List Int → Int × List Int × Nat
  | [] => (indent, [], 0)
  | outer :: rest =>
    if column < indent then
      let (indent, indents, closed) := popTo column outer rest
      (indent, indents, closed + 1)
    else (indent, outer :: rest, 0)

def closeTo (column : Int) : Lex Unit := do
  if ← inFlow then return ()
  let l ← get
  let (indent, indents, closed) := popTo column l.indent l.indents
  set { l with indent, indents, queue := l.queue ++ List.replicate closed Token.blockEnd }

/-- Opens a block collection at a column, unless one is open there; whether it is new. -/
def openAt (column : Int) : Lex Bool := do
  let l ← get
  if l.indent < column then
    set { l with indent := column, indents := l.indent :: l.indents }
    return true
  else return false

def endStream : Lex Unit := do
  closeTo (-1)
  dropKey
  modify fun l => { l with mayBeginKey := false, keys := [], done := true }
  push .streamEnd

def betweenDocuments (read : Scan Token) : Lex Unit := do
  closeTo (-1)
  dropKey
  allowKey false
  push (← scan read)

def mark (length : Nat) (t : Token) : Lex Unit := do
  scan (Scan.skip length)
  push t

def openFlow (t : Token) : Lex Unit := do
  noteKey
  modify fun l => { l with flow := l.flow + 1, mayBeginKey := true }
  mark 1 t

def closeFlow (t : Token) : Lex Unit := do
  dropKey
  modify fun l => { l with flow := l.flow - 1, mayBeginKey := false }
  mark 1 t

/-- Takes a mark that may stand only where a key may begin; in front of its first one a block
collection opens. -/
def blockMark (opening : Token) : Lex Unit := do
  if !(← inFlow) then
    if !(← get).mayBeginKey then stray
    if ← openAt (← column) then push opening

def blockEntry : Lex Unit := do
  blockMark .blockSequenceStart
  allowKey true
  dropKey
  mark 1 .blockEntry

def flowEntry : Lex Unit := do
  allowKey true
  dropKey
  mark 1 .flowEntry

def keyMark : Lex Unit := do
  blockMark .blockMappingStart
  allowKey !(← inFlow)
  dropKey
  mark 1 .key

/-- Takes a colon: the mark of a key goes in front of what has turned out to be one. -/
def valueMark : Lex Unit := do
  let l ← get
  match l.keys.lookup l.flow with
  | some k =>
    let opens ← if l.flow = 0 then openAt k.place.column else pure false
    let marks := if opens then [.blockMappingStart, .key] else [Token.key]
    let (front, back) := l.queue.splitAt (k.token - l.taken)
    modify fun l => { l with
      keys := l.keys.filter fun e => e.1 != l.flow
      queue := front ++ marks ++ back
      mayBeginKey := false }
  | none =>
    blockMark .blockMappingStart
    allowKey !(← inFlow)
    dropKey
  mark 1 .value

def keyLike (read : Scan Token) : Lex Unit := do
  noteKey
  allowKey false
  push (← scan read)

def blockScalar (folded : Bool) : Lex Unit := do
  allowKey true
  dropKey
  let lines ← scan (block folded ((← get).indent + 1).toNat)
  push (.scalar (lines.map Char.toNat) false)

/-- Takes a plain scalar; behind a break a key may begin again. -/
def plainScalar : Lex Unit := do
  noteKey
  let l ← get
  let (s, broken) ← scan (plain (l.indent + 1).toNat (l.flow != 0))
  allowKey broken
  push (.scalar (s.map Char.toNat) true)

/-- A plain scalar may begin here: not with a mark, except for a dash, and outside flow collections
a question mark or a colon, in front of a word. -/
def beginsPlain (inFlow : Bool) : List Char → Bool
  | [] => false
  | c :: s =>
    !(endsWord (some c) || "-?:,[]\x7b\x7d#&*!|>'\"%@\x60".toList.contains c) ||
      (!endsWord s.head? && (c == '-' || (!inFlow && (c == '?' || c == ':'))))

def readToken (c : Char) (s : List Char) : Lex Unit := do
  let inFlow ← inFlow
  let isFirst := (← column) = 0
  let alone := endsWord s.head?
  if c = '%' ∧ isFirst then betweenDocuments (Token.directive <$> Token.directiveLine)
  else if isFirst ∧ isTriple '-' (c :: s) then
    betweenDocuments (do Scan.skip 3; return .documentStart)
  else if isFirst ∧ isTriple '.' (c :: s) then
    betweenDocuments (do Scan.skip 3; return .documentEnd)
  else if c = '[' then openFlow .flowSequenceStart
  else if c = '\x7b' then openFlow .flowMappingStart
  else if c = ']' then closeFlow .flowSequenceEnd
  else if c = '\x7d' then closeFlow .flowMappingEnd
  else if c = ',' then flowEntry
  else if c = '-' ∧ alone then blockEntry
  else if c = '?' ∧ (inFlow ∨ alone) then keyMark
  else if c = ':' ∧ (inFlow ∨ alone) then valueMark
  else if c = '*' then keyLike (Token.alias <$> Token.anchorName)
  else if c = '&' then keyLike (Token.anchor <$> Token.anchorName)
  else if c = '!' then keyLike Token.tagName
  else if c = '|' ∧ !inFlow then blockScalar false
  else if c = '>' ∧ !inFlow then blockScalar true
  else if c = '\x27' ∨ c = '"' then keyLike ((Token.scalar · false) <$> quotedText c)
  else if beginsPlain inFlow (c :: s) then plainScalar
  else stray

def readMore : Lex Unit := do
  let place := (← get).place
  if place.index = 0 ∧ place.head? = some '\ufeff' then scan (Scan.skip 1)
  if ← scan (Scan.skipGap (place.rest.length + 1)) then
    if !(← inFlow) then allowKey true
  dropStaleKeys
  closeTo (← column)
  match (← get).place.rest with
  | [] => endStream
  | c :: s => readToken c s

def needsMore : Lex Bool := do
  if (← get).done then return false
  if (← get).queue.isEmpty then return true
  dropStaleKeys
  let l ← get
  return l.keys.any fun k => k.2.token == l.taken

def fill : Nat → Lex Unit
  | 0 => return ()
  | fuel + 1 => do
    if ← needsMore then
      readMore
      fill fuel

def peek : Lex Token := do
  fill ((← get).place.rest.length + 2)
  return (← get).queue.head?.getD .streamEnd

def take : Lex Token := do
  let t ← peek
  modify fun l => { l with queue := l.queue.tail, taken := l.taken + 1 }
  return t

end Lex
end DialogueMarkup.Document.Yaml
