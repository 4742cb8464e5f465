import DialogueMarkup.Text.Lines

/-!
Paths of files. A path is a root, which a relative path has not, and components; empty components
and single points say nothing and are left out.
-/
namespace DialogueMarkup.Files
open Text

def splitSlashes (s : List Char) : List (List Char) :=
  s.foldr (fun c parts =>
    if c = '/' then [] :: parts
    else match parts with
      | [] => [[c]]
      | part :: rest => (c :: part) :: rest) [[]]

structure Path where
  root : List Char
  components : List (List Char)
  deriving DecidableEq, Repr

namespace Path

/-- The path that a text names; exactly two slashes in front are a root of their own. -/
def ofText (s : List Char) : Path :=
  let slashes := (s.takeWhile (· == '/')).length
  ⟨if slashes = 0 then [] else if slashes = 2 then ['/', '/'] else ['/'],
    (splitSlashes s).filter fun part => !part.isEmpty && part != ['.']⟩

def text (p : Path) : List Char :=
  if p.root.isEmpty ∧ p.components.isEmpty then ['.']
  else p.root ++ joinWith ['/'] p.components

/-- The end of the last component from its last point on, if the point is neither first nor last
in it. -/
def suffix (p : Path) : List Char :=
  match p.components.getLast? with
  | none => []
  | some name =>
    let tail := (name.reverse.takeWhile (· != '.')).reverse
    let head := name.take (name.length - tail.length - 1)
    if tail.isEmpty || head.isEmpty || tail.length = name.length then [] else '.' :: tail

end Path
end DialogueMarkup.Files
