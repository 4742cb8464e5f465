import DialogueMarkup.State.Basic
import DialogueMarkup.Text.Casing

/-!
Overrides of the state from the command line: items of a key, an equals sign and a value. An item
that is no such assignment is passed over with a remark.
-/
namespace DialogueMarkup.Command
open Text

inductive ItemFault
  | noAssignment
  | noTruth
  | noId
  | noInteger
  deriving DecidableEq, Repr

def ItemFault.wording : ItemFault → List Char
  | noAssignment => "expected KEY=VALUE".toList
  | noTruth => "expected on/off".toList
  | noId => "ID must be a number".toList
  | noInteger => "expected ID=N".toList

structure Remark where
  option : List Char
  item : List Char
  fault : ItemFault
  deriving DecidableEq, Repr

def assignment? (item : List Char) : Option (List Char × List Char) :=
  match item.dropWhile (· != '=') with
  | [] => none
  | _ :: value => some (trim (item.takeWhile (· != '=')), trim value)

def trueWords : List String := ["on", "true", "yes", "1"]

def falseWords : List String := ["off", "false", "no", "0"]

def truth? (word : List Char) : Option Bool :=
  if trueWords.contains (String.ofList (lower word)) then some true
  else if falseWords.contains (String.ofList (lower word)) then some false
  else none

/-- The effect of an item: a new state, or the reason why it is passed over; a key that looks like
a number but is none ends the run. -/
abbrev ItemResult := Except NumeralFault (Except ItemFault State)

def overrideSwitch (st : State) (item : List Char) : ItemResult :=
  match assignment? item with
  | none => .ok (.error .noAssignment)
  | some (key, value) =>
    if !isDigits key then .ok (.error .noId)
    else match truth? value with
      | none => .ok (.error .noTruth)
      | some b => (Numeral.read key).map fun n => .ok (st.setSwitchAt none (.number n) b)

def overrideVariable (st : State) (item : List Char) : ItemResult :=
  match assignment? item with
  | none => .ok (.error .noAssignment)
  | some (key, value) =>
    match Numeral.read key, Numeral.read value with
    | .ok id, .ok n => .ok (.ok (st.setVariableAt none (.number id) n))
    | _, _ => .ok (.error .noInteger)

def overrideSelf (st : State) (item : List Char) : ItemResult :=
  match assignment? item with
  | none => .ok (.error .noAssignment)
  | some (key, value) =>
    match truth? value with
    | none => .ok (.error .noTruth)
    | some b =>
      (Slot.ofText key).map fun slot => .ok (st.setSwitchAt (some st.current) slot b)

inductive OverrideFault
  | numeral (fault : NumeralFault)
  /-- two dashes stand in the place of an item -/
  | noItem
  deriving DecidableEq, Repr

abbrev Overridden := (State × List Remark) × Option OverrideFault

def override (f : State → List Char → ItemResult) (option : List Char) :
    State × List Remark → List (Option (List Char)) → Overridden
  | r, [] => (r, none)
  | r, none :: _ => (r, some .noItem)
  | (st, remarks), some item :: rest =>
    match f st item with
    | .error fault => ((st, remarks), some (.numeral fault))
    | .ok (.ok st) => override f option (st, remarks) rest
    | .ok (.error fault) => override f option (st, remarks ++ [⟨option, item, fault⟩]) rest

def overrideAll (st : State) (switches vars selfSwitches : List (Option (List Char))) :
    Overridden :=
  match override overrideSwitch "--switch".toList (st, []) switches with
  | (r, some fault) => (r, some fault)
  | (r, none) =>
    match override overrideVariable "--variable".toList r vars with
    | (r, some fault) => (r, some fault)
    | (r, none) => override overrideSelf "--self-switch".toList r selfSwitches

end DialogueMarkup.Command
