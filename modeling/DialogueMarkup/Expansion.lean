import DialogueMarkup.Condition.Parser
import DialogueMarkup.Markup.Brace
import DialogueMarkup.Markup.CaseSpan
import DialogueMarkup.Markup.Directive

/-!
Expansion of directives. A pass puts a branch in the place of every innermost directive; passes
follow one another until no directive is left. Their number is bounded: by a ceiling if one is set,
else by the length of the text.
-/
namespace DialogueMarkup
open Text Markup

namespace Expansion

def choose (st : State) (current : Scope) (d : Directive) : Except Fault (List Char) := do
  let condition ← Condition.parse d.opcode d.condition
  return d.branch (← condition.holds st current)

/-- One pass over a guarded text; none when it holds no directive. -/
def pass? (st : State) (current : Scope) (escape : Char) (s : List Char) :
    Option (Except Fault (List Char)) :=
  if (marks (readDirective escape) s).isEmpty then none
  else some (replaceMarksM (readDirective escape) (choose st current) s)

/-- Passes over a guarded text while `left` of them are allowed and `done` have been made. -/
def run (st : State) (current : Scope) (escape : Char) (left done : Nat) (s : List Char) :
    Except Fault (List Char) :=
  match pass? st current escape s with
  | none => .ok (restoreSpans s)
  | some next =>
    match left with
    | 0 => .error (.divergence done (restoreSpans s))
    | left + 1 =>
      match next with
      | .error fault => .error fault
      | .ok s => run st current escape left (done + 1) s

def allowance (maxPasses : Option Int) (s : List Char) : Nat :=
  match maxPasses with
  | some n => n.toNat
  | none => max s.length 1

def directives (st : State) (current : Scope) (escape : Char) (maxPasses : Option Int)
    (s : List Char) : Except Fault (List Char) :=
  run st current escape (allowance maxPasses s) 0 (guardSpans escape s)

def expand (st : State) (current : Scope) (escape : Char) (maxPasses : Option Int)
    (s : List Char) : Except Fault (List Char) :=
  (directives st current escape maxPasses s).map (decodeBraces escape)

end Expansion
end DialogueMarkup
