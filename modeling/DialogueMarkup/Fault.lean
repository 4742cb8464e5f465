import DialogueMarkup.Opcode
import DialogueMarkup.Text.Numeral

/-!
What can go wrong while directives are expanded. A fault names its cause and carries the piece of
markup that it concerns.
-/
namespace DialogueMarkup

inductive Malformation
  | comparison
  | address
  | switchReference
  | addressOnSwitch
  | variableOperand
  | addressOnVariable
  | negativeVariable
  | variableShape
  | empty (opcode : Opcode)
  | partyShape
  | memberShape
  | memberAttribute
  deriving DecidableEq, Repr

inductive NameKind
  | container
  | context
  deriving DecidableEq, Repr

inductive Fault
  | malformed (cause : Malformation) (fragment : List Char)
  | unknownOpcode (name : List Char)
  | unresolved (kind : NameKind) (name fragment : List Char)
  | crossContext (fragment : List Char)
  | divergence (passes : Nat) (fragment : List Char)
  | numeral (fault : NumeralFault)
  deriving DecidableEq, Repr

def Malformation.wording : Malformation → List Char
  | comparison => "Unsupported comparison operator".toList
  | address => "Malformed context address".toList
  | switchReference => "Invalid switch reference".toList
  | addressOnSwitch => "Global switches cannot carry a context address".toList
  | variableOperand => "Invalid variable operand".toList
  | addressOnVariable => "Only self variables can carry a context address".toList
  | negativeVariable => "Variable ids cannot be negative".toList
  | variableShape => "Expected '<left> <op> <right>'".toList
  | empty opcode => "Empty condition for ".toList ++ opcode.name
  | partyShape => "Expected '[label] [op] <n>'".toList
  | memberShape => "Expected '<attribute> <op> <n>'".toList
  | memberAttribute => "Unknown actor attribute".toList

def NameKind.word : NameKind → List Char
  | container => "container".toList
  | context => "context".toList

namespace Fault
open Text

def fragment : Fault → List Char
  | malformed _ fragment => fragment
  | unknownOpcode name => name
  | unresolved _ _ fragment => fragment
  | crossContext fragment => fragment
  | divergence _ fragment => fragment
  | numeral _ => []

def wording : Fault → List Char
  | malformed cause _ => cause.wording
  | unknownOpcode _ => "Unknown directive opcode".toList
  | unresolved kind name _ => "Unknown ".toList ++ kind.word ++ " name ".toList ++ quoted name
  | crossContext _ => "Cross-context self references are not supported by this host".toList
  | divergence passes _ =>
    "No fixed point after ".toList ++ Numeral.writeNat passes ++ " expansion passes".toList
  | numeral fault => Numeral.message fault

/-- The cause in words, and the fragment quoted if there is one. -/
def message (fault : Fault) : List Char :=
  if fault.fragment.isEmpty then fault.wording
  else fault.wording ++ ": ".toList ++ quoted fault.fragment

/-- The title of a fault of the markup; a numeral that is too long is none. -/
def title? : Fault → Option (List Char)
  | malformed .. => some "MalformedCondition".toList
  | unknownOpcode .. => some "UnknownOpcode".toList
  | unresolved .. => some "UnresolvedNamedReference".toList
  | crossContext .. => some "UnsupportedCrossContextAccess".toList
  | divergence .. => some "ExpansionDivergence".toList
  | numeral .. => none

end Fault
end DialogueMarkup
