import DialogueMarkup.Operand

/-!
Conditions of directives and what they mean in a state.
-/
namespace DialogueMarkup

inductive Whom
  | leader
  | anyMember
  deriving DecidableEq, Repr

inductive Attribute
  | actor
  | role
  | state
  deriving DecidableEq, Repr

inductive Condition
  | switch (operand : Operand) (negated : Bool)
  | compare (left : Operand) (op : Comparison) (right : Operand)
  | partySize (op : Comparison) (n : Int) (core : Bool)
  | member (whom : Whom) (what : Attribute) (op : Comparison) (n : Int)
  deriving DecidableEq, Repr

/-- One of the values of the attribute stands in the relation; a member may have several states. -/
def Member.satisfies (m : Member) (a : Attribute) (op : Comparison) (n : Int) : Bool :=
  match a with
  | .actor => op.holds m.actor n
  | .role => op.holds m.role n
  | .state => m.states.any fun s => op.holds s n

def Condition.holds (st : State) (current : Scope) : Condition → Except Fault Bool
  | switch operand negated => do
    let n ← operand.value st current
    return (n != 0) != negated
  | compare left op right => do
    let a ← left.value st current
    let b ← right.value st current
    return op.holds a b
  | partySize op n core => return op.holds (if core then st.coreSize else st.party.length) n
  | member .leader a op n => return (st.party.head?.map (·.satisfies a op n)).getD false
  | member .anyMember a op n => return st.party.any (·.satisfies a op n)

end DialogueMarkup
