import DialogueMarkup.Console.Styled
import DialogueMarkup.Summary
import DialogueMarkup.Text.Lines

/-!
The panel of a preview: an overview of what a text depends on, in styled text.
-/
namespace DialogueMarkup.Preview
open Text

def opcodeCounts (m : Summary) : List (List Char) :=
  Opcode.alphabetical.filterMap fun op =>
    (m.opcodes.lookup op).map fun n => op.name ++ '×' :: Numeral.writeNat n

def listLine (title : String) (items : List (List Char)) : List (List Char) :=
  if items.isEmpty then [] else [title.toList ++ joinWith [',', ' '] items]

def panelLines (m : Summary) : List (List Char) :=
  let counts := opcodeCounts m
  let escaped (title : String) (items : List (List Char)) : List (List Char) :=
    if items.isEmpty then []
    else [title.toList ++ Console.escape (joinWith [',', ' '] items)]
  ["🔀 Directives: [bold]".toList ++ Numeral.writeNat m.directiveCount ++ "[/bold]".toList] ++
    (if counts.isEmpty then []
      else ["[dim]".toList ++ joinWith [',', ' '] counts ++ "[/dim]".toList]) ++
    escaped "🔗 Cross-context: " m.selfReferences ++
    escaped "👥 Party: " m.partyConditions ++
    listLine "✏️  Grammar: " m.grammarCodes ++
    (if m.braceEscapes = 0 then []
      else ["\x7b\x7d Brace escapes: ".toList ++ Numeral.writeNat m.braceEscapes]) ++
    m.problems.map fun problem =>
      "[bold red]⚠ ".toList ++ Console.escape problem ++ "[/bold red]".toList

def panelText (m : Summary) : List Char := joinWith ['\n'] (panelLines m)

end DialogueMarkup.Preview
