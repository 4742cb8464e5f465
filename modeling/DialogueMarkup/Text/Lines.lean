import DialogueMarkup.Text.CodeRange

/-!
Lines of a text. A line ends at any of the line and paragraph breaks; a carriage return and the
line feed after it are one break.
-/
namespace DialogueMarkup.Text

def isLineBreak (c : Char) : Bool :=
  (10 ≤ c.toNat && c.toNat ≤ 13) || (28 ≤ c.toNat && c.toNat ≤ 30) || c.toNat == 0x85 ||
    c.toNat == 0x2028 || c.toNat == 0x2029

/-- Lines of a text whose current line has begun with `line`, reversed. -/
def linesFrom (line : List Char) : List Char → List (List Char)
  | [] => if line.isEmpty then [] else [line.reverse]
  | '\r' :: '\n' :: s => line.reverse :: linesFrom [] s
  | c :: s => if isLineBreak c then line.reverse :: linesFrom [] s else linesFrom (c :: line) s

/-- The lines of a text without their breaks; a break at the end opens no further line. -/
def splitLines (s : List Char) : List (List Char) := linesFrom [] s

/-- Every break of a text file is read as a line feed. -/
def unifyBreaks : List Char → List Char
  | [] => []
  | '\r' :: '\n' :: s => '\n' :: unifyBreaks s
  | c :: s => (if c = '\r' then '\n' else c) :: unifyBreaks s

def joinWith (separator : List Char) (parts : List (List Char)) : List Char :=
  separator.intercalate parts

end DialogueMarkup.Text
