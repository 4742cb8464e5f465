import DialogueMarkup.Fault

/-!
Comparison operators. Each of the six has a symbol; equality and inequality have further spellings.
-/
namespace DialogueMarkup

inductive Comparison
  | eq | ne | gt | ge | lt | le
  deriving DecidableEq, Repr

namespace Comparison
open Text

def holds : Comparison → Int → Int → Bool
  | eq, a, b => a == b
  | ne, a, b => a != b
  | gt, a, b => b < a
  | ge, a, b => b ≤ a
  | lt, a, b => a < b
  | le, a, b => a ≤ b

def symbol : Comparison → List Char
  | eq => ['=']
  | ne => ['!', '=']
  | gt => ['>']
  | ge => ['>', '=']
  | lt => ['<']
  | le => ['<', '=']

def spellings : List (List Char × Comparison) := [
  (['='], eq), (['=', '='], eq), (['=', '=', '='], eq), (['!', '='], ne), (['<', '>'], ne),
  (['>'], gt), (['>', '='], ge), (['<'], lt), (['<', '='], le)]

def ofSpelling? (s : List Char) : Option Comparison := spellings.lookup s

def parse (token : List Char) : Except Fault Comparison :=
  match ofSpelling? (trim token) with
  | some op => .ok op
  | none => .error (.malformed .comparison token)

def isSign (c : Char) : Bool := c == '=' || c == '!' || c == '<' || c == '>'

/-- Splits off a whole run of operator characters when it spells an operator. -/
def read (s : List Char) : Option (Comparison × List Char) :=
  (ofSpelling? (s.takeWhile isSign)).map fun op => (op, s.dropWhile isSign)

end Comparison
end DialogueMarkup
