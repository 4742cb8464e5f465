import DialogueMarkup.Document.Json
import DialogueMarkup.Document.Yaml.Cursor
import DialogueMarkup.Text.Utf8

/-!
Tokens of a sheet, and how those are read that hold a name: anchors, tags and directives.
-/
namespace DialogueMarkup.Document.Yaml
open Scan

inductive Directive
  | version (major : Nat)
  | handle (name uri : List Char)
  | other
  deriving DecidableEq, Repr

inductive Token
  | directive (d : Directive)
  | documentStart
  | documentEnd
  | streamEnd
  | blockSequenceStart
  | blockMappingStart
  | blockEnd
  | flowSequenceStart
  | flowSequenceEnd
  | flowMappingStart
  | flowMappingEnd
  | blockEntry
  | flowEntry
  | key
  | value
  | alias (name : List Char)
  | anchor (name : List Char)
  /-- a tag: a handle and what follows it, or a whole tag -/
  | tag (handle? : Option (List Char)) (suffix : List Char)
  | scalar (points : List Nat) (isPlain : Bool)
  deriving DecidableEq, Repr

namespace Token

def name : Scan (List Char) := do
  let name ← takeWhile isNameCharacter
  if name.isEmpty then stray
  return name

def anchorName : Scan (List Char) := do
  skip 1
  let name ← name
  let next ← peek
  if endsWord next ∨ next.any fun c => "?:,]\x7d%@\x60".toList.contains c then return name
  stray

def isUriCharacter (c : Char) : Bool :=
  c.isAlphanum || "-;/?:@&=+$,_.!~*'()[]".toList.contains c

def uriOctets : Nat → Scan (List UInt8)
  | 0 => return []
  | fuel + 1 => do
    if (← peek) ≠ some '%' then return []
    skip 1
    match ((← rest).take 2).filterMap Json.hexDigit? with
    | [a, b] =>
      skip 2
      return (16 * a + b).toUInt8 :: (← uriOctets fuel)
    | _ => stray

def uriFrom : Nat → Scan (List Char)
  | 0 => return []
  | fuel + 1 => do
    let piece ← takeWhile isUriCharacter
    if (← peek) = some '%' then
      match Text.Utf8.decode (← uriOctets ((← rest).length + 1)) with
      | some s => return piece ++ s ++ (← uriFrom fuel)
      | none => stray
    else return piece

def uri : Scan (List Char) := do
  let first ← peek
  if first.any fun c => isUriCharacter c || c == '%' then uriFrom ((← rest).length + 1) else stray

/-- Takes a handle: a name between exclamation marks, or one mark alone. -/
def handle : Scan (List Char) := do
  if (← peek) ≠ some '!' then stray
  skip 1
  if (← peek) = some ' ' then return ['!']
  let name ← takeWhile isNameCharacter
  if (← peek) ≠ some '!' then stray
  skip 1
  return '!' :: (name ++ ['!'])

def tagName : Scan Token := do
  let s := (← rest).drop 1
  let token ←
    if s.head? = some '<' then
      skip 2
      let uri ← uri
      if (← peek) ≠ some '>' then stray
      skip 1
      pure (tag none uri)
    else if endsWord s.head? then
      skip 1
      pure (tag none ['!'])
    else if (s.takeWhile fun c => !endsName (some c)).contains '!' then
      let handle ← handle
      pure (tag (some handle) (← uri))
    else
      skip 1
      pure (tag (some ['!']) (← uri))
  if endsName (← peek) then return token else stray

def versionNumber : Scan Nat := do
  let digits ← takeWhile Char.isDigit
  if digits.isEmpty then stray
  return Json.digitsValue digits

def directiveValue (name : List Char) : Scan Directive := do
  if name = "YAML".toList then
    skipSpaces
    let major ← versionNumber
    if (← peek) ≠ some '.' then stray
    skip 1
    discard versionNumber
    if endsName (← peek) then return .version major else stray
  else if name = "TAG".toList then
    skipSpaces
    let handle ← handle
    if (← peek) ≠ some ' ' then stray
    skipSpaces
    let uri ← uri
    if endsName (← peek) then return .handle handle uri else stray
  else
    discard (takeWhile fun c => !isBreak c)
    return .other

def directiveLine : Scan Directive := do
  skip 1
  let name ← name
  if !endsName (← peek) then stray
  let d ← directiveValue name
  endLine
  return d

end Token
end DialogueMarkup.Document.Yaml
