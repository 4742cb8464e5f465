import DialogueMarkup.Document.Yaml.Lexer

/-!
Nodes of a sheet: scalars, sequences and mappings, each with the tag that it was given, if any.
Reading resolves handles and the names of anchored nodes.
-/
namespace DialogueMarkup.Document.Yaml

inductive Node
  /-- a scalar by its code points; a plain one may mean something else than a text -/
  | scalar (tag? : Option (List Char)) (isPlain : Bool) (points : List Nat)
  | sequence (tag? : Option (List Char)) (items : List Node)
  | mapping (tag? : Option (List Char)) (entries : List (Node × Node))
  deriving Repr

namespace Node

def empty : Node := scalar none true []

/-- How deep nodes may nest where nothing else is said. -/
def usualDepth : Nat := 485

structure Names where
  anchors : List (List Char × Node) := []
  handles : List (List Char × List Char) := []

abbrev Parse := StateT Names Lex

def misplaced {α : Type} : Parse α := throw (.sheet .order)

def peekToken : Parse Token := Lex.peek

def takeToken : Parse Token := Lex.take

def dropToken : Parse Unit := discard takeToken

def standardHandles : List (List Char × List Char) :=
  [(['!'], ['!']), ("!!".toList, "tag:yaml.org,2002:".toList)]

def resolveTag : Option (List Char) → List Char → Parse (List Char)
  | none, suffix => return suffix
  | some handle, suffix => do
    match (← get).handles.lookup handle with
    | some uri => return uri ++ suffix
    | none => misplaced

structure Properties where
  anchor? : Option (List Char) := none
  tag? : Option (List Char) := none

def anchor? : Parse (Option (List Char)) := do
  match ← peekToken with
  | .anchor name => dropToken; return some name
  | _ => return none

def tag? : Parse (Option (Option (List Char) × List Char)) := do
  match ← peekToken with
  | .tag handle? suffix => dropToken; return some (handle?, suffix)
  | _ => return none

def properties : Parse Properties := do
  let first ← anchor?
  let tag ← tag?
  let last ← if first.isNone && tag.isSome then anchor? else pure none
  let tag? ← tag.mapM fun t => resolveTag t.1 t.2
  return ⟨first <|> last, tag?⟩

def checkName (p : Properties) : Parse Unit := do
  match p.anchor? with
  | some name =>
    if ((← get).anchors.lookup name).isSome then throw (.sheet .reference)
  | none => return ()

def nameNode (p : Properties) (node : Node) : Parse Unit :=
  match p.anchor? with
  | some name => modify fun n => { n with anchors := (name, node) :: n.anchors }
  | none => return ()

def named (name : List Char) : Parse Node := do
  match (← get).anchors.lookup name with
  | some node => return node
  | none => throw (.sheet .reference)

/-- A tag other than the one that leaves the choice open. -/
def isForced (p : Properties) : Bool := p.tag?.any (· != ['!'])

def ofScalar (p : Properties) (points : List Nat) (isPlain : Bool) : Node :=
  scalar (if isForced p then p.tag? else none) (isPlain && p.tag?.isNone || p.tag? == some ['!'])
    points

def collectionTag? (p : Properties) : Option (List Char) := if isForced p then p.tag? else none

structure Style where
  block : Bool
  unindented : Bool := false

inductive Collection
  | blockSequence | unindentedSequence | blockMapping | flowSequence | flowMapping
  deriving DecidableEq, Repr

def collection? (style : Style) : Token → Option Collection
  | .blockEntry => if style.unindented then some .unindentedSequence else none
  | .flowSequenceStart => some .flowSequence
  | .flowMappingStart => some .flowMapping
  | .blockSequenceStart => if style.block then some .blockSequence else none
  | .blockMappingStart => if style.block then some .blockMapping else none
  | _ => none

/-- Nothing is written in front of the tokens that end an entry of a collection. -/
def endsEntry (c : Collection) (t : Token) : Bool :=
  match c with
  | .blockSequence => [.blockEntry, .blockEnd].contains t
  | .unindentedSequence => [.blockEntry, .key, .value, .blockEnd].contains t
  | .blockMapping => [.key, .value, .blockEnd].contains t
  | .flowSequence => [.flowEntry, .flowSequenceEnd].contains t
  | .flowMapping => [.flowEntry, .flowMappingEnd].contains t

def entryStyle : Collection → Style
  | .blockSequence | .unindentedSequence => ⟨true, false⟩
  | .blockMapping => ⟨true, true⟩
  | .flowSequence | .flowMapping => ⟨false, false⟩

def separator (isFirst : Bool) : Parse Unit := do
  if isFirst then return ()
  if (← peekToken) = .flowEntry then dropToken else misplaced

mutual

/-- Reads a node; `depth` levels of collections are left. -/
def read : Nat → Nat → Style → Parse Node
  | 0, _, _ => misplaced
  | fuel + 1, depth, style => do
    match ← peekToken with
    | .alias name =>
      dropToken
      named name
    | _ =>
      let p ← properties
      let t ← peekToken
      match collection? style t, t with
      | some c, _ =>
        checkName p
        if depth = 0 then throw .tooDeep
        readCollection fuel depth p c
      | none, .scalar points isPlain =>
        dropToken
        checkName p
        let node := ofScalar p points isPlain
        nameNode p node
        return node
      | none, _ =>
        if p.anchor?.isNone && p.tag?.isNone then misplaced
        checkName p
        let node := ofScalar p [] true
        nameNode p node
        return node

/-- Reads a collection of some properties; inside it, its name stands for an empty one. -/
def readCollection : Nat → Nat → Properties → Collection → Parse Node
  | 0, _, _, _ => misplaced
  | fuel + 1, depth, p, c => do
    let tag? := collectionTag? p
    let make (n : Node) : Parse Node := do
      if p.anchor?.isSome then nameNode p n
      return n
    match c with
    | .blockSequence =>
      nameNode p (sequence tag? [])
      dropToken
      make (sequence tag? (← readBlockItems fuel depth))
    | .unindentedSequence =>
      nameNode p (sequence tag? [])
      make (sequence tag? (← readUnindentedItems fuel depth))
    | .blockMapping =>
      nameNode p (mapping tag? [])
      dropToken
      make (mapping tag? (← readBlockEntries fuel depth))
    | .flowSequence =>
      nameNode p (sequence tag? [])
      dropToken
      make (sequence tag? (← readFlowItems fuel depth true))
    | .flowMapping =>
      nameNode p (mapping tag? [])
      dropToken
      make (mapping tag? (← readFlowEntries fuel depth true))

def readEntry : Nat → Nat → Collection → Parse Node
  | 0, _, _ => misplaced
  | fuel + 1, depth, c => do
    if endsEntry c (← peekToken) then return empty
    read fuel (depth - 1) (entryStyle c)

def readBlockItems : Nat → Nat → Parse (List Node)
  | 0, _ => misplaced
  | fuel + 1, depth => do
    match ← peekToken with
    | .blockEntry =>
      dropToken
      let item ← readEntry fuel depth .blockSequence
      return item :: (← readBlockItems fuel depth)
    | .blockEnd => dropToken; return []
    | _ => misplaced

def readUnindentedItems : Nat → Nat → Parse (List Node)
  | 0, _ => misplaced
  | fuel + 1, depth => do
    match ← peekToken with
    | .blockEntry =>
      dropToken
      let item ← readEntry fuel depth .unindentedSequence
      return item :: (← readUnindentedItems fuel depth)
    | _ => return []

def readBlockEntries : Nat → Nat → Parse (List (Node × Node))
  | 0, _ => misplaced
  | fuel + 1, depth => do
    match ← peekToken with
    | .key =>
      dropToken
      let key ← readEntry fuel depth .blockMapping
      let v ← readValue fuel depth .blockMapping
      return (key, v) :: (← readBlockEntries fuel depth)
    | .blockEnd => dropToken; return []
    | _ => misplaced

def readValue : Nat → Nat → Collection → Parse Node
  | 0, _, _ => misplaced
  | fuel + 1, depth, c => do
    if (← peekToken) ≠ .value then return empty
    dropToken
    readEntry fuel depth c

def readFlowItems : Nat → Nat → Bool → Parse (List Node)
  | 0, _, _ => misplaced
  | fuel + 1, depth, isFirst => do
    if (← peekToken) = .flowSequenceEnd then dropToken; return []
    separator isFirst
    match ← peekToken with
    | .flowSequenceEnd => dropToken; return []
    | .key =>
      -- a key and a value in a list are a mapping of their own
      if depth - 1 = 0 then throw .tooDeep
      dropToken
      let key ← if (← peekToken) = .value then pure empty
        else readEntry fuel (depth - 1) .flowSequence
      let v ← readValue fuel (depth - 1) .flowSequence
      return mapping none [(key, v)] :: (← readFlowItems fuel depth false)
    | _ =>
      let item ← read fuel (depth - 1) (entryStyle .flowSequence)
      return item :: (← readFlowItems fuel depth false)

def readFlowEntries : Nat → Nat → Bool → Parse (List (Node × Node))
  | 0, _, _ => misplaced
  | fuel + 1, depth, isFirst => do
    if (← peekToken) = .flowMappingEnd then dropToken; return []
    separator isFirst
    match ← peekToken with
    | .flowMappingEnd => dropToken; return []
    | .key =>
      dropToken
      let key ← if (← peekToken) = .value then pure empty
        else readEntry fuel depth .flowMapping
      let v ← readValue fuel depth .flowMapping
      return (key, v) :: (← readFlowEntries fuel depth false)
    | _ =>
      let key ← read fuel (depth - 1) (entryStyle .flowMapping)
      return (key, empty) :: (← readFlowEntries fuel depth false)

end

def readDirectives : Nat → Bool → Parse Unit
  | 0, _ => misplaced
  | fuel + 1, hasVersion => do
    match ← peekToken with
    | .directive (.version major) =>
      if hasVersion ∨ major ≠ 1 then misplaced
      dropToken
      readDirectives fuel true
    | .directive (.handle name uri) =>
      if ((← get).handles.lookup name).isSome then misplaced
      dropToken
      modify fun n => { n with handles := (name, uri) :: n.handles }
      readDirectives fuel hasVersion
    | .directive .other =>
      dropToken
      readDirectives fuel hasVersion
    | _ => modify fun n => { n with handles := n.handles ++ standardHandles }

def skipEnds : Nat → Parse Unit
  | 0 => return ()
  | fuel + 1 => do
    if (← peekToken) = .documentEnd then
      dropToken
      skipEnds fuel

def openDocument (fuel : Nat) : Parse Bool := do
  skipEnds fuel
  if (← peekToken) = .streamEnd then return false
  modify fun n => { n with handles := [] }
  readDirectives fuel false
  if (← peekToken) = .documentStart then dropToken else misplaced
  return true

def readContent (fuel depth : Nat) : Parse Node := do
  match ← peekToken with
  | .directive _ | .documentStart | .documentEnd | .streamEnd => return empty
  | _ => read fuel depth ⟨true, false⟩

def readFirst? (fuel depth : Nat) : Parse (Option Node) := do
  match ← peekToken with
  | .directive _ | .documentStart | .streamEnd =>
    if ← openDocument fuel then return some (← readContent fuel depth) else return none
  | _ =>
    modify fun n => { n with handles := standardHandles }
    return some (← read fuel depth ⟨true, false⟩)

def readOnly? (fuel depth : Nat) : Parse (Option Node) := do
  match ← readFirst? fuel depth with
  | none => return none
  | some node =>
    if ← openDocument fuel then throw (.sheet .reference)
    return some node

/-- The node of a sheet; none of a sheet without a document. -/
def ofText? (s : List Char) (depth : Nat) : Except DataFault (Option Node) :=
  if !s.all isAllowed then .error (.sheet .unprintable)
  else ((readOnly? (10 * s.length + 20) depth).run' {}).run' { place := { rest := s } }

end Node
end DialogueMarkup.Document.Yaml
