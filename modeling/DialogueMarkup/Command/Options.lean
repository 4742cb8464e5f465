import DialogueMarkup.Files.Path
import DialogueMarkup.Text.Digit

/-!
Options of the command line. A long option may be shortened as long as one option alone begins so;
a value follows its option or an equals sign, or a short option at once; short options without a
value may be joined. What begins with a dash is an option unless it is a negative number or holds a
space.
-/
namespace DialogueMarkup.Command
open Text Files

inductive Flag
  | help | stdin | text | state | switch | variable | selfSwitch | output | format
  | noGrammar | checkEmpty | choices | scan | verbose | config | env | ui
  deriving DecidableEq, Repr

/-- The value of an option; none when two dashes stand in its place. -/
abbrev Value := Option (List Char)

structure Options where
  textFile : Option (List Char) := none
  stdin : Bool := false
  text : Option Value := none
  state : Option (Option Path) := none
  switches : List Value := []
  vars : List Value := []
  selfSwitches : List Value := []
  output : Option Path := none
  json : Bool := false
  noGrammar : Bool := false
  checkEmpty : Bool := false
  choices : Bool := false
  scan : Bool := false
  verbose : Bool := false
  config : Option (Option Path) := none
  env : Bool := false
  ui : Bool := false
  deriving Repr

inductive Refusal
  | help
  | usage
  deriving DecidableEq, Repr

namespace Flag

def spellings : List (String × Flag) := [
  ("-h", help), ("--help", help), ("--stdin", stdin), ("--text", text), ("--state", state),
  ("--switch", switch), ("--variable", .variable), ("--self-switch", selfSwitch), ("-o", output),
  ("--output", output), ("--format", format), ("--no-grammar", noGrammar),
  ("--check-empty", checkEmpty), ("--choices", choices), ("--scan", scan), ("-v", verbose),
  ("--verbose", verbose), ("--config", config), ("--env", env), ("--ui", ui)]

def takesValue : Flag → Bool
  | .text | .state | .switch | .variable | .selfSwitch | .output | .format | .config => true
  | _ => false

def ofSpelling? (s : List Char) : Option Flag := spellings.lookup (String.ofList s)

def beginningWith (s : List Char) : List Flag :=
  (spellings.filter fun e => s.isPrefixOf e.1.toList).map Prod.snd

end Flag

inductive Argument
  | plain (s : List Char)
  | dashes
  | flag (f : Flag) (short : Bool) (attached : Option (List Char))
  | unknown
  deriving DecidableEq, Repr

/-- Digits, or digits with a point among them or in front of them. -/
def isNumberBody (s : List Char) : Bool :=
  let s := if s.getLast? = some '\n' then s.dropLast else s
  match s.dropWhile isDecimal with
  | [] => !s.isEmpty
  | '.' :: rest => !rest.isEmpty && rest.all isDecimal
  | _ => false

def splitEquals? (s : List Char) : Option (List Char × List Char) :=
  match s.dropWhile (· != '=') with
  | [] => none
  | _ :: value => some (s.takeWhile (· != '='), value)

def isShort (s : List Char) : Bool := (s.drop 1).head? != some '-'

def inFull? (s : List Char) : Option Argument :=
  match Flag.ofSpelling? s with
  | some f => some (.flag f (isShort s) none)
  | none => do
    let (name, value) ← splitEquals? s
    return .flag (← Flag.ofSpelling? name) (isShort name) (some value)

def candidates (s : List Char) : List Argument :=
  match s with
  | '-' :: '-' :: _ =>
    let (name, value) := match splitEquals? s with
      | some (name, value) => (name, some value)
      | none => (s, none)
    (Flag.beginningWith name).map fun f => .flag f false value
  | '-' :: c :: rest =>
    match Flag.ofSpelling? ['-', c] with
    | some f => [.flag f true (some rest)]
    | none => []
  | _ => []

def classify (s : List Char) : Except Refusal Argument :=
  match s with
  | '-' :: body =>
    if body.isEmpty then .ok (.plain s)
    else match inFull? s with
      | some a => .ok a
      | none =>
        match candidates s with
        | [a] => .ok a
        | _ :: _ :: _ => .error .usage
        | [] => if isNumberBody body ∨ s.contains ' ' then .ok (.plain s) else .ok .unknown
  | _ => .ok (.plain s)

def classifyAll : List (List Char) → Except Refusal (List Argument)
  | [] => .ok []
  | s :: rest =>
    if s = ['-', '-'] then .ok (.dashes :: rest.map .plain)
    else do return (← classify s) :: (← classifyAll rest)

def setValue (o : Options) (value : Value) : Flag → Except Refusal Options
  | .text => .ok { o with text := some value }
  | .state => .ok { o with state := some (value.map .ofText) }
  | .switch => .ok { o with switches := o.switches ++ [value] }
  | .variable => .ok { o with vars := o.vars ++ [value] }
  | .selfSwitch => .ok { o with selfSwitches := o.selfSwitches ++ [value] }
  | .output => .ok { o with output := value.map .ofText }
  | .config => .ok { o with config := some (value.map .ofText) }
  | .format =>
    if value = none ∨ value = some "text".toList then .ok { o with json := false }
    else if value = some "json".toList then .ok { o with json := true }
    else .error .usage
  | _ => .error .usage

def setFlag (o : Options) : Flag → Except Refusal Options
  | .help => .error .help
  | .stdin => .ok { o with stdin := true }
  | .noGrammar => .ok { o with noGrammar := true }
  | .checkEmpty => .ok { o with checkEmpty := true }
  | .choices => .ok { o with choices := true }
  | .scan => .ok { o with scan := true }
  | .verbose => .ok { o with verbose := true }
  | .env => .ok { o with env := true }
  | .ui => .ok { o with ui := true }
  | _ => .error .usage

def attachedValue (s : List Char) : Value := if s = ['-', '-'] then none else some s

/-- The options of one argument: those without a value, in order, and the last one with its value
if that is attached. -/
abbrev Spread := List Flag × Flag × Option Value

/-- Splits an option and what is attached to it: the value of an option that takes one, or after a
short option further short options. -/
def spread (f : Flag) (short : Bool) : List Char → Except Refusal Spread
  | [] => if f.takesValue then .ok ([], f, some (attachedValue [])) else .error .usage
  | c :: rest =>
    if f.takesValue then .ok ([], f, some (attachedValue (c :: rest)))
    else if !short then .error .usage
    else match Flag.ofSpelling? ['-', c] with
      | none => .error .usage
      | some g =>
        if rest.isEmpty then .ok ([f], g, none)
        else (spread g true rest).map fun r => (f :: r.1, r.2)

structure Progress where
  options : Options := {}
  settled : Bool := false
  leftOver : Bool := false

/-- Takes over a row of arguments that are no options: the first may name the file of the text,
with two dashes before or after it, and the others are left over. -/
def takePlain (p : Progress) (row : List Argument) : Progress :=
  if p.settled then { p with leftOver := p.leftOver || !row.isEmpty }
  else
    let row := match row with
      | .dashes :: rest => rest
      | row => row
    let (file, row) := match row with
      | .plain s :: rest => (some s, rest)
      | row => (none, row)
    let row := match row with
      | .dashes :: rest => rest
      | row => row
    { options := { p.options with textFile := file }, settled := true
      leftOver := p.leftOver || !row.isEmpty }

def setFlags (o : Options) (flags : List Flag) : Except Refusal Options :=
  flags.foldlM setFlag o

/-- Takes over arguments from left to right; `row` holds those that are no options since the last
option, in reverse. -/
def takeAll (p : Progress) (row : List Argument) : List Argument → Except Refusal Progress
  | [] => .ok (if row.isEmpty then p else takePlain p row.reverse)
  | .plain s :: rest => takeAll p (.plain s :: row) rest
  | .dashes :: rest => takeAll p (.dashes :: row) rest
  | .unknown :: rest =>
    let p := if row.isEmpty then p else takePlain p row.reverse
    takeAll { p with leftOver := true } [] rest
  | .flag f short attached :: rest => do
    let p := if row.isEmpty then p else takePlain p row.reverse
    let (flags, f, value?) ← match attached with
      | none => pure ([], f, none)
      | some s => spread f short s
    match value?, rest with
    | some value, rest =>
      let o ← setFlags p.options flags
      takeAll { p with options := ← setValue o value f } [] rest
    | none, rest =>
      if f.takesValue then
        match rest with
        | .plain value :: rest =>
          let o ← setFlags p.options flags
          takeAll { p with options := ← setValue o (some value) f } [] rest
        | _ => throw .usage
      else takeAll { p with options := ← setFlags p.options (flags ++ [f]) } [] rest

def Options.parse (argv : List (List Char)) : Except Refusal Options := do
  let p ← takeAll {} [] (← classifyAll argv)
  if p.leftOver then throw .usage
  return p.options

def helpText : List Char := String.toList
  "usage: switchtext [options] [text_file]

Expand switchable text directives against game state.

  -h, --help                 show this help
  --stdin                    read the text from standard input
  --text TEXT                expand this text instead of reading a file
  --state FILE               a YAML or JSON file of the game state
  --switch ID=on|off         set a global switch (repeatable)
  --variable ID=N            set a global variable (repeatable)
  --self-switch SLOT=on|off  set a self switch of the current context (repeatable)
  -o, --output FILE          write to a file instead of standard output
  --format text|json         the form of the output
  --no-grammar               resolve directives only
  --check-empty              print whether nothing is left after expansion
  --choices                  treat every line as a choice and drop the empty ones
  --scan                     print what the text depends on
  -v, --verbose              show what is being done
  --config FILE              a YAML or JSON file of settings
  --env                      print the settings in force
  --ui                       open the live preview
"

end DialogueMarkup.Command
