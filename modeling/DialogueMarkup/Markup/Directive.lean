import DialogueMarkup.Markup.Code
import DialogueMarkup.Opcode

/-!
Directives: an opcode with a condition in brackets, a branch in braces for when it holds, and an
optional second branch for when it does not. Branches hold no braces, so only innermost directives
are read; a further brace right after the first branch must open a second one. A directive that is
read stands, as it is written, in front of the rest.
-/
namespace DialogueMarkup.Markup
open Text

structure Directive where
  escape : Char
  spelling : List Char
  opcode : Opcode
  condition : List Char
  whenTrue : List Char
  whenFalse? : Option (List Char)
  deriving DecidableEq, Repr

namespace Directive

def source (d : Directive) : List Char :=
  d.escape :: (d.spelling ++ argumentSource d.condition ++ spanSource d.whenTrue ++
    (match d.whenFalse? with
      | some branch => spanSource branch
      | none => []))

/-- The branch taken; a missing second branch is empty. -/
def branch (d : Directive) (holds : Bool) : List Char :=
  if holds then d.whenTrue else d.whenFalse?.getD []

end Directive

structure Head where
  escape : Char
  spelling : List Char
  opcode : Opcode
  condition : List Char
  deriving DecidableEq, Repr

def readHead (escape : Char) : Reader Head := fun s => do
  let (e, s) ← readEscape escape s
  let ((spelling, opcode), s) ← Opcode.read s
  let (condition, s) ← readArgument s
  return (⟨e, spelling, opcode, condition⟩, s)

def readDirective (escape : Char) : Reader Directive := fun s => do
  let (head, s) ← readHead escape s
  let (whenTrue, s) ← readSpan s
  let directive := Directive.mk head.escape head.spelling head.opcode head.condition whenTrue
  match s with
  | '{' :: _ =>
    let (whenFalse, s) ← readSpan s
    return (directive (some whenFalse), s)
  | _ => return (directive none, s)

theorem readHead_eq_some {escape : Char} {s rest : List Char} {head : Head}
    (h : readHead escape s = some (head, rest)) :
    s = head.escape :: (head.spelling ++ argumentSource head.condition) ++ rest := by
  simp only [readHead, Option.bind_eq_bind, Option.bind_eq_some_iff, Option.pure_def,
    Option.some.injEq, Prod.mk.injEq] at h
  obtain ⟨⟨e, t⟩, he, ⟨⟨sp, op⟩, u⟩, hu, ⟨c, v⟩, hv, rfl, rfl⟩ := h
  have ht : t = sp ++ u := (Opcode.read_eq_some hu).1
  have hu : u = argumentSource c ++ v := readArgument_eq_some hv
  rw [readEscape_eq_some he, ht, hu]
  simp

theorem readDirective_eq_some {escape : Char} {s rest : List Char} {d : Directive}
    (h : readDirective escape s = some (d, rest)) : s = d.source ++ rest := by
  simp only [readDirective, Option.bind_eq_bind, Option.bind_eq_some_iff] at h
  obtain ⟨⟨head, t⟩, ht, ⟨b, u⟩, hu, h⟩ := h
  have hb : t = spanSource b ++ u := readSpan_eq_some hu
  rw [readHead_eq_some ht, hb]
  split at h
  · simp only [Option.bind_eq_some_iff, Option.pure_def, Option.some.injEq, Prod.mk.injEq] at h
    obtain ⟨⟨f, v⟩, hv, rfl, rfl⟩ := h
    have hf : u = spanSource f ++ v := readSpan_eq_some hv
    rw [hf]
    simp [Directive.source]
  · simp only [Option.pure_def, Option.some.injEq, Prod.mk.injEq] at h
    obtain ⟨rfl, rfl⟩ := h
    simp [Directive.source]

theorem readDirective_consumes (escape : Char) : (readDirective escape).Consumes := by
  intro s d rest h
  have hd : 0 < d.source.length := by simp [Directive.source]
  rw [readDirective_eq_some h, List.length_append]
  omega

structure Located where
  start : Nat
  directive : Directive
  deriving DecidableEq, Repr

def Located.stop (l : Located) : Nat := l.start + l.directive.source.length

def locate (start : Nat) : List (Piece Directive) → List Located
  | [] => []
  | .char _ :: rest => locate (start + 1) rest
  | .mark d :: rest => ⟨start, d⟩ :: locate (start + d.source.length) rest

def directives (escape : Char) (s : List Char) : List Located :=
  locate 0 (pieces (readDirective escape) s)

end DialogueMarkup.Markup
