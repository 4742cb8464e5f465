import DialogueMarkup.Text.CodeRange

/-!
Blank characters of every script, and texts with the blanks around them taken away.
-/
namespace DialogueMarkup.Text

def blankRanges : List (Nat × Nat) := [
  (0x85, 0x85), (0xA0, 0xA0), (0x1680, 0x1680), (0x2000, 0x200A), (0x2028, 0x2029),
  (0x202F, 0x202F), (0x205F, 0x205F), (0x3000, 0x3000)]

/-- A space, a line or page break, a tab, an information separator, or a blank beyond ASCII. -/
def isBlank (c : Char) : Bool :=
  if c.toNat < 128 then
    (9 ≤ c.toNat && c.toNat ≤ 13) || (28 ≤ c.toNat && c.toNat ≤ 32)
  else inRanges blankRanges c

def isBlankText (s : List Char) : Bool := s.all isBlank

def trimOf (p : Char → Bool) (s : List Char) : List Char :=
  ((s.dropWhile p).reverse.dropWhile p).reverse

def trim (s : List Char) : List Char := trimOf isBlank s

def trimLeft (s : List Char) : List Char := s.dropWhile isBlank

/-- Words of a text whose current word has begun with `word`, reversed. -/
def wordsFrom (word : List Char) : List Char → List (List Char)
  | [] => if word.isEmpty then [] else [word.reverse]
  | c :: s =>
    if !isBlank c then wordsFrom (c :: word) s
    else if word.isEmpty then wordsFrom [] s
    else word.reverse :: wordsFrom [] s

def words (s : List Char) : List (List Char) := wordsFrom [] s

end DialogueMarkup.Text
