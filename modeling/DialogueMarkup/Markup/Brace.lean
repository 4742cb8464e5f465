import DialogueMarkup.Markup.Code

/-!
Brace escapes: the codes `BO` and `BC` stand for a literal opening and closing brace.
-/
namespace DialogueMarkup.Markup
open Text

def readBare (escape : Char) (name : List Char) : Reader (List Char) := fun s =>
  (readCode escape name s).map fun r => (r.1.1 :: r.1.2, r.2)

/-- Puts braces in the place of the brace escapes, the opening ones first. -/
def decodeBraces (escape : Char) (s : List Char) : List Char :=
  replaceMarks (readBare escape ['B', 'C']) (fun _ => ['}'])
    (replaceMarks (readBare escape ['B', 'O']) (fun _ => ['{']) s)

end DialogueMarkup.Markup
