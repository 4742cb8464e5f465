import DialogueMarkup.Comparison
import DialogueMarkup.State.Basic

/-!
Operands of conditions: constants, global switches and variables, and self slots of the current
scope or of one that an address states.
-/
namespace DialogueMarkup

inductive Kind
  | switch
  | variable
  deriving DecidableEq, Repr

inductive Place
  | id (n : Int)
  | name (s : List Char)
  deriving DecidableEq, Repr

structure SelfRef where
  kind : Kind
  slot : Slot
  container : Option Place
  context : Option Place
  text : List Char
  deriving DecidableEq, Repr

inductive Operand
  | constant (n : Int)
  | global (kind : Kind) (id : Int)
  | self (ref : SelfRef)
  deriving DecidableEq, Repr

/-- Only lettered self switches of the current scope are open to every host. -/
def SelfRef.needsCrossContext (ref : SelfRef) : Bool :=
  ref.kind = .variable || (match ref.slot with | .number _ => true | .name _ => false) ||
    ref.container.isSome || ref.context.isSome

namespace Place

def resolve (names : Table (List Char) Int) (kind : NameKind) (ref : SelfRef) :
    Place → Except Fault Int
  | id n => .ok n
  | name s =>
    match names.get? s with
    | some n => .ok n
    | none => .error (.unresolved kind s (if ref.text.isEmpty then s else ref.text))

end Place

def SelfRef.scope (ref : SelfRef) (st : State) (current : Scope) : Except Fault Scope := do
  if ref.needsCrossContext && !st.crossContext then
    throw (.crossContext (if ref.text.isEmpty then ref.slot.text else ref.text))
  let container ← match ref.container with
    | none => pure current.container
    | some place => place.resolve st.containers .container ref
  let context ← match ref.context with
    | none => pure current.context
    | some place => some <$> place.resolve st.contexts .context ref
  return ⟨container, context⟩

/-- The number at a slot: a switch counts as one when it is on. -/
def Kind.read (kind : Kind) (st : State) (scope : Option Scope) (slot : Slot) :
    Except Fault Int :=
  match kind with
  | .switch => ((st.switch scope slot).map fun on => if on then 1 else 0).mapError .numeral
  | .variable => (st.reading scope slot).mapError .numeral

def Operand.value (st : State) (current : Scope) : Operand → Except Fault Int
  | constant n => .ok n
  | global kind id => kind.read st none (.number id)
  | self ref => do
    let scope ← ref.scope st current
    ref.kind.read st (some scope) ref.slot

end DialogueMarkup
