import DialogueMarkup.Document.Yaml.Node
import DialogueMarkup.Document.Yaml.Scalar

/-!
Documents in YAML. The values of nested collections are made one level after the other, so that of
several faults the one nearest to the top, and on one level the first, is told.
-/
namespace DialogueMarkup.Document.Yaml

def Node.kind : Node → Kind
  | scalar (some tag) _ _ => .ofTag tag
  | scalar none true points => Scalar.plainKind (points.map Char.ofNat)
  | scalar none false _ => .text
  | sequence tag? _ => (tag?.map Kind.ofTag).getD .sequence
  | mapping tag? _ => (tag?.map Kind.ofTag).getD .mapping

abbrev Leveled (α : Type) := Except (Nat × DataFault) α

namespace Leveled

def mistagged {α : Type} (level : Nat) : Leveled α := .error (level, .sheet .tag)

def below {α : Type} (r : Leveled α) : Leveled α := r.mapError fun e => (e.1 + 1, e.2)

/-- Two results; of two faults the one nearer to the top, or else the first, is kept. -/
def both {α β : Type} : Leveled α → Leveled β → Leveled (α × β)
  | .ok a, .ok b => .ok (a, b)
  | .error e, .ok _ => .error e
  | .ok _, .error e => .error e
  | .error e, .error f => .error (if f.1 < e.1 then f else e)

def all {α : Type} : List (Leveled α) → Leveled (List α)
  | [] => .ok []
  | r :: rest => (both r (all rest)).map fun p => p.1 :: p.2

end Leveled

namespace Node

/-- The entries that are merged into a mapping, and those of its own, in which the key for the
whole value is a text. -/
def splitMerged : Nat → List (Node × Node) →
    Except DataFault (List (Node × Node) × List (Node × Node))
  | 0, _ => .error .tooDeep
  | _ + 1, [] => .ok ([], [])
  | fuel + 1, (key, v) :: rest => do
    if key.kind = .merge then
      let merged ← match v with
        | mapping _ entries => do
          let (merged, own) ← splitMerged fuel entries
          pure (merged ++ own)
        | sequence _ items => do
          let parts ← items.mapM fun
            | mapping _ entries => do
              let (merged, own) ← splitMerged fuel entries
              pure (merged ++ own)
            | _ => throw (.sheet .tag)
          pure parts.reverse.flatten
        | scalar .. => throw (.sheet .tag)
      let (more, own) ← splitMerged fuel rest
      return (merged ++ more, own)
    else
      let key := match key with
        | scalar _ _ points => if key.kind = .default then scalar none false points else key
        | key => key
      let (merged, own) ← splitMerged fuel rest
      return (merged, (key, v) :: own)

/-- The value of a key: collections cannot be keys. -/
def keyValue (key : Node) : Leveled Document :=
  match key with
  | scalar _ _ points => (Scalar.value key.kind points).mapError (0, ·)
  | _ => .mistagged 0

def value : Nat → Node → Leveled Document
  | 0, _ => .error (0, .tooDeep)
  | fuel + 1, node =>
    match node, node.kind with
    | scalar .., .sequence => .mistagged 1
    | scalar .., .mapping => .mistagged 1
    | scalar _ _ points, kind => (Scalar.value kind points).mapError (0, ·)
    | sequence _ items, .sequence => (Leveled.all (items.map (value fuel))).below.map .list
    | sequence .., .mapping => .mistagged 1
    | mapping .., .sequence => .mistagged 1
    | mapping _ entries, .mapping =>
      match splitMerged fuel entries with
      | .error fault => .error (1, fault)
      | .ok (merged, own) =>
        (Leveled.all ((merged ++ own).map fun (key, v) =>
          Leveled.both key.keyValue (value fuel v))).below.map fun fields =>
            .object (fields.foldl (fun fields f => setField fields f.1 f.2) [])
    | _, _ => .mistagged 0

end Node

/-- The document of a sheet; a sheet without one holds null. `depth` is the deepest nesting. -/
def parse (s : List Char) (depth : Nat) : Except DataFault Document := do
  match ← Node.ofText? s depth with
  | none => return .null
  | some node => (node.value (s.length + 2)).mapError Prod.snd

end DialogueMarkup.Document.Yaml
