import DialogueMarkup.Markup.Code

/-!
Case spans under guard. The braces of `UP` and `LOW` spans are swapped for two private characters
while directives are expanded, so that a branch may hold a span. Braces are partnered by nesting:
a closing brace belongs to the nearest brace that is still open.
-/
namespace DialogueMarkup.Markup
open Text

def guardOpen : Char := '\ue000'

def guardClose : Char := '\ue001'

def readSpanOpening (escape : Char) : Reader (List Char) := fun s => do
  let ((e, spelling), s) ← (readCode escape ['U', 'P'] s).orElse fun _ =>
    readCode escape ['L', 'O', 'W'] s
  return (e :: spelling, ← readChar '{' s)

/-- Guards the braces of case spans. The list tells, innermost first, which of the braces still
open belong to case spans. -/
def guardPieces : List Bool → List (Piece (List Char)) → List Char
  | _, [] => []
  | opened, .mark code :: rest => code ++ guardOpen :: guardPieces (true :: opened) rest
  | opened, .char c :: rest =>
    if c = '{' then c :: guardPieces (false :: opened) rest
    else if c = '}' then
      match opened with
      | [] => c :: guardPieces [] rest
      | ofSpan :: opened => (if ofSpan then guardClose else c) :: guardPieces opened rest
    else c :: guardPieces opened rest

def guardSpans (escape : Char) (s : List Char) : List Char :=
  guardPieces [] (pieces (readSpanOpening escape) s)

def restoreSpans (s : List Char) : List Char :=
  s.map fun c => if c = guardOpen then '{' else if c = guardClose then '}' else c

end DialogueMarkup.Markup
