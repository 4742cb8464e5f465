import DialogueMarkup.Expansion
import DialogueMarkup.Grammar

/-!
The engine: it expands and renders texts against a state, and filters the choices of a dialogue.
-/
namespace DialogueMarkup
open Text Markup

structure Settings where
  escape : Char := '\\'
  maxPasses : Option Int := none
  grammar : Bool := true
  deriving DecidableEq, Repr

/-- A state with settings. Directives keep to the escape character and the ceiling that the engine
was opened with; grammar codes and the last decoding of braces follow the current settings. -/
structure Engine where
  state : State
  settings : Settings
  escape : Char
  maxPasses : Option Int
  deriving DecidableEq, Repr

/-- The choices kept, the place that each had, and the shifted cancel and default choices. -/
structure ChoiceFilter where
  choices : List (List Char)
  branches : List Nat
  cancel : Int
  default : Int
  deriving DecidableEq, Repr

namespace Engine

def «open» (state : State) (settings : Settings) : Engine :=
  ⟨state, settings, settings.escape, settings.maxPasses⟩

def scopeOr (e : Engine) (scope : Option Scope) : Scope := scope.getD e.state.current

def directives (e : Engine) (scope : Option Scope) (s : List Char) : Except Fault (List Char) :=
  Expansion.directives e.state (e.scopeOr scope) e.escape e.maxPasses s

def expand (e : Engine) (scope : Option Scope) (s : List Char) : Except Fault (List Char) :=
  Expansion.expand e.state (e.scopeOr scope) e.escape e.maxPasses s

theorem expand_eq (e : Engine) (scope : Option Scope) (s : List Char) :
    e.expand scope s = (e.directives scope s).map (decodeBraces e.escape) := rfl

def render (e : Engine) (scope : Option Scope) (s : List Char) : Except Fault (List Char) := do
  let s ← e.directives scope s
  let s ← if e.settings.grammar then (Grammar.apply e.settings.escape s).mapError .numeral
    else pure s
  return decodeBraces e.settings.escape s

theorem render_eq_ok {e : Engine} {scope : Option Scope} {s t r : List Char}
    (hdirectives : e.directives scope s = .ok t)
    (happly : Grammar.apply e.settings.escape t = .ok r) :
    e.render scope s =
      .ok (decodeBraces e.settings.escape (if e.settings.grammar then r else t)) := by
  rw [render, hdirectives]
  simp only [bind, Except.bind, happly]
  cases e.settings.grammar <;> rfl

def isEmpty (e : Engine) (scope : Option Scope) (s : List Char) : Except Fault Bool :=
  (e.expand scope s).map isBlankText

def shift (removed : List Nat) (i : Int) : Int := i - removed.countP fun (k : Nat) => (k : Int) < i

/-- Drops the choices that expand to nothing; an index moves down by the places dropped below it. -/
def filterChoices (e : Engine) (scope : Option Scope) (choices : List (List Char))
    (cancel default : Int) : Except Fault ChoiceFilter := do
  let judged ← choices.mapM fun s => return (s, ← e.isEmpty scope s)
  let placed := judged.zipIdx
  let kept := placed.filter fun p => !p.1.2
  let removed := (placed.filter fun p => p.1.2).map Prod.snd
  return ⟨kept.map (·.1.1), kept.map Prod.snd, shift removed cancel, shift removed default⟩

section
variable {a b : Engine} {here there : Option Scope}
  (hdirectives : ∀ s, a.directives here s = b.directives there s)
  (hdecode : decodeBraces a.escape = decodeBraces b.escape)
include hdirectives hdecode

/-- Two engines whose directives come to the same expand every text alike, find the same texts empty
and leave the same of every list of choices. -/
theorem expansions_eq_of_directives_eq :
    (∀ s, a.expand here s = b.expand there s ∧ a.isEmpty here s = b.isEmpty there s) ∧
    ∀ choices cancel default,
      a.filterChoices here choices cancel default = b.filterChoices there choices cancel default := by
  have hexpand (s : List Char) : a.expand here s = b.expand there s := by
    rw [expand_eq, expand_eq, hdirectives, hdecode]
  have hempty (s : List Char) : a.isEmpty here s = b.isEmpty there s := by
    rw [isEmpty, isEmpty, hexpand]
  refine ⟨fun s => ⟨hexpand s, hempty s⟩, fun choices cancel default => ?_⟩
  simp only [filterChoices, hempty]

/-- If they have the same settings, too, they display every text alike. -/
theorem outcomes_eq_of_directives_eq (hsettings : a.settings = b.settings) :
    (∀ s, a.expand here s = b.expand there s ∧ a.render here s = b.render there s ∧
      a.isEmpty here s = b.isEmpty there s) ∧
    ∀ choices cancel default,
      a.filterChoices here choices cancel default = b.filterChoices there choices cancel default := by
  obtain ⟨hexpansions, hchoices⟩ := expansions_eq_of_directives_eq hdirectives hdecode
  have hrender (s : List Char) : a.render here s = b.render there s := by
    simp only [render, hdirectives, hsettings]
  exact ⟨fun s => ⟨(hexpansions s).1, hrender s, (hexpansions s).2⟩, hchoices⟩

end

end Engine
end DialogueMarkup
