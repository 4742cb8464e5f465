import DialogueMarkup.Text.Casing
import DialogueMarkup.Text.Numeral

/-!
Slots of switches and variables, and the scopes that self slots belong to. A slot is a number or a
name; names are kept in capitals, and a name made of digits is a number.
-/
namespace DialogueMarkup

inductive Slot
  | number (n : Int)
  | name (s : List Char)
  deriving DecidableEq, Repr

structure Scope where
  container : Int
  context : Option Int
  deriving DecidableEq, Repr

namespace Slot
open Text

def ofText (s : List Char) : Except NumeralFault Slot :=
  if isDigits (trim s) then (Numeral.read (trim s)).map number
  else .ok (name (upper (trim s)))

/-- The form under which a slot is stored. -/
def normal : Slot → Except NumeralFault Slot
  | number n => .ok (number n)
  | name s => ofText s

def text : Slot → List Char
  | number n => Numeral.write n
  | name s => s

end Slot
end DialogueMarkup
