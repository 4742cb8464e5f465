import DialogueMarkup.Console.Styled
import DialogueMarkup.Engine
import DialogueMarkup.Text.Lines

/-!
The pane of a preview: the rendered text, or the fault that kept it from being rendered. A long
text is cut after a number of lines.
-/
namespace DialogueMarkup.Preview
open Text

def shownLines : Nat := 200

structure Pane where
  rendered : List Char
  error : List Char
  shown : List Char
  deriving DecidableEq, Repr

def shownPart (rendered : List Char) : List Char :=
  let lines := splitLines rendered
  if shownLines < lines.length then
    Console.printed (joinWith ['\n'] (lines.take shownLines)) ++ "\n… (truncated)".toList
  else Console.printed rendered

/-- The pane for a text; a numeral that is too long leaves none. -/
def Pane.ofText (e : Engine) (s : List Char) : Except NumeralFault Pane :=
  match e.render none s with
  | .ok rendered => .ok ⟨rendered, [], shownPart rendered⟩
  | .error (.numeral fault) => .error fault
  | .error fault =>
    let error := fault.title?.getD [] ++ ": ".toList ++ fault.message
    .ok ⟨[], error, Console.printed ("⚠ ".toList ++ error)⟩

end DialogueMarkup.Preview
