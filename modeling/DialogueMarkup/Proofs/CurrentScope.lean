import DialogueMarkup.Engine
import DialogueMarkup.Proofs.Passes

/-! The current scope of a state is a default and nothing else: it is looked at where no scope is
stated, once for a text, and never again while the directives of the text are decided. -/
namespace DialogueMarkup
open Text Markup

namespace State
variable (st : State) (here : Scope)

/-- A state with the current scope moved to another one. -/
def movedTo : State := { st with current := here }

@[simp]
theorem movedTo_current : (st.movedTo here).current = here := rfl

@[simp]
theorem switch_movedTo : (st.movedTo here).switch = st.switch := rfl

@[simp]
theorem reading_movedTo : (st.movedTo here).reading = st.reading := rfl

@[simp]
theorem coreSize_movedTo : (st.movedTo here).coreSize = st.coreSize := rfl

@[simp]
theorem party_movedTo : (st.movedTo here).party = st.party := rfl

end State

section
variable (st : State) (here current : Scope)

/-- The parts of an address that are left out are those of the scope that the reference is seen
from. -/
@[simp]
theorem SelfRef.scope_movedTo (ref : SelfRef) :
    ref.scope (st.movedTo here) current = ref.scope st current := rfl

@[simp]
theorem Operand.value_movedTo (operand : Operand) :
    operand.value (st.movedTo here) current = operand.value st current := by
  cases operand with
  | constant n => rfl
  | global kind id => cases kind <;> simp [Operand.value, Kind.read]
  | self ref => cases hkind : ref.kind <;> simp [Operand.value, Kind.read, hkind]

@[simp]
theorem Condition.holds_movedTo (c : Condition) :
    c.holds (st.movedTo here) current = c.holds st current := by
  cases c with
  | switch operand negated => simp [Condition.holds]
  | compare left op right => simp [Condition.holds]
  | partySize op n core => simp [Condition.holds]
  | member whom what op n => cases whom <;> simp [Condition.holds]

theorem Expansion.choose_movedTo : choose (st.movedTo here) current = choose st current := by
  funext d
  simp [choose]

end

namespace Engine
variable (e : Engine) (here scope : Scope)

/-- An engine over the same state, but for its current scope. -/
def movedTo : Engine := { e with state := e.state.movedTo here }

/-- The directives of a text seen from a stated scope are resolved alike wherever the state is. -/
theorem directives_movedTo (s : List Char) :
    (e.movedTo here).directives (some scope) s = e.directives (some scope) s :=
  Expansion.run_eq_of_choose_eq (Expansion.choose_movedTo e.state here scope) e.escape _ 0 _

/-- To state the scope in which the engine is takes nothing from a text and adds nothing to it. -/
theorem directives_current (s : List Char) :
    (e.movedTo scope).directives none s = (e.movedTo scope).directives (some scope) s := rfl

/-- A stated scope and the current one of the state are interchangeable: of every text, its
expansion, rendering and verdict of emptiness, and of every list of choices what is left of it are
the same, faults included. -/
theorem outcomes_eq_movedTo :
    (∀ s, e.expand (some scope) s = (e.movedTo scope).expand none s ∧
      e.render (some scope) s = (e.movedTo scope).render none s ∧
      e.isEmpty (some scope) s = (e.movedTo scope).isEmpty none s) ∧
    ∀ choices cancel default, e.filterChoices (some scope) choices cancel default =
      (e.movedTo scope).filterChoices none choices cancel default := by
  have hdirectives (s : List Char) :
      e.directives (some scope) s = (e.movedTo scope).directives none s := by
    rw [directives_current, directives_movedTo]
  exact outcomes_eq_of_directives_eq hdirectives rfl rfl

end Engine

end DialogueMarkup
