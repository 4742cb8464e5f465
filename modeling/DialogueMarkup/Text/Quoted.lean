import DialogueMarkup.Text.Printable

/-!
Quoted text in messages: between apostrophes, or between quotation marks when the text holds an
apostrophe and no quotation mark; what cannot be printed is written by its code point.
-/
namespace DialogueMarkup.Text

def hexadecimal (width n : Nat) : List Char :=
  let digits := Nat.toDigits 16 n
  List.replicate (width - digits.length) '0' ++ digits

def quotedChar (mark c : Char) : List Char :=
  if c = mark ∨ c = '\\' then ['\\', c]
  else if c = '\t' then ['\\', 't']
  else if c = '\n' then ['\\', 'n']
  else if c = '\r' then ['\\', 'r']
  else if isPrintable c then [c]
  else if c.toNat < 0x100 then '\\' :: 'x' :: hexadecimal 2 c.toNat
  else if c.toNat < 0x10000 then '\\' :: 'u' :: hexadecimal 4 c.toNat
  else '\\' :: 'U' :: hexadecimal 8 c.toNat

def quoteMark (s : List Char) : Char :=
  if s.contains '\x27' && !s.contains '"' then '"' else '\x27'

def quoted (s : List Char) : List Char :=
  quoteMark s :: (s.flatMap (quotedChar (quoteMark s)) ++ [quoteMark s])

/-- A code point inside quotes; one that is no character is written by its number. -/
def quotedCode (mark : Char) (n : Nat) : List Char :=
  if n.isValidChar then quotedChar mark (Char.ofNat n) else '\\' :: 'u' :: hexadecimal 4 n

def quotedCodes (points : List Nat) : List Char :=
  let mark := quoteMark ((points.filter Nat.isValidChar).map Char.ofNat)
  mark :: (points.flatMap (quotedCode mark) ++ [mark])

end DialogueMarkup.Text
