import DialogueMarkup.Document.Moment
import DialogueMarkup.Document.Real

/-!
Documents: the values that state and settings files hold. The fields of an object keep their order,
and no key is there twice. Keys are texts, or in a sheet any value that has no parts.
-/
namespace DialogueMarkup

inductive Document
  | null
  | bool (b : Bool)
  | int (n : Int)
  | real (x : Real)
  | text (s : List Char)
  /-- a text some of whose code points are no characters -/
  | codes (points : List Nat)
  | moment (m : Moment)
  | list (items : List Document)
  | object (fields : List (Document × Document))
  deriving Repr

inductive SheetFault
  | unprintable
  /-- no token can stand where characters do -/
  | token
  /-- tokens stand in an order that makes no document -/
  | order
  /-- a name is given to two values or to none, or a second document follows -/
  | reference
  /-- a value is not what its tag says, or cannot be a key -/
  | tag
  deriving DecidableEq, Repr

inductive DataFault
  | noText
  | noDocument
  | sheet (fault : SheetFault)
  | tooDeep
  | numeral (fault : NumeralFault)
  /-- a text is no numeral of a base; the text as it is shown -/
  | malformed (base : Nat) (shown : List Char)
  | emptyNumber
  /-- a text is no real number; the text as it is shown -/
  | noReal (shown : List Char)
  /-- the real number that is no number has no whole part -/
  | undefinedReal
  | infiniteReal
  | moment (fault : MomentFault)
  | noMoment
  | noTruth (word : List Char)
  | noCharacter
  /-- a code point is beyond any range of code points -/
  | noCodePoint
  | noNumber
  | noItems
  | noFields
  | missingField (name : List Char)
  /-- more or fewer than one character; the text as it is shown -/
  | escapeLength (shown : List Char)
  deriving DecidableEq, Repr

namespace Document
open Text

def ofCodes (points : List Nat) : Document :=
  if points.all Nat.isValidChar then text (points.map Char.ofNat) else codes points

def ofFields (fields : List (String × Document)) : Document :=
  object (fields.map fun f => (text f.1.toList, f.2))

def isText (name : List Char) : Document → Bool
  | text s => s == name
  | _ => false

def fieldOf? (fields : List (Document × Document)) (name : List Char) : Option Document :=
  (fields.find? fun f => f.1.isText name).map Prod.snd

/-- A number by its value: truth values count as zero and one, and a real number without a
fraction is an integer. -/
def number? : Document → Option (Int ⊕ Real)
  | bool b => some (.inl (if b then 1 else 0))
  | int n => some (.inl n)
  | real x =>
    match x.truncate? with
    | some n => some (if x.hasFraction then .inr x else .inl n)
    | none => some (.inr x)
  | _ => none

def isSameKey : Document → Document → Bool
  | null, null => true
  | text s, text t => s == t
  | codes s, codes t => s == t
  | moment m, moment n => m == n
  | v, w => v.number?.isSome && v.number? == w.number?

/-- Fields with one more value; a key that is there keeps its place. -/
def setField (fields : List (Document × Document)) (key v : Document) :
    List (Document × Document) :=
  if fields.any fun f => f.1.isSameKey key then
    fields.map fun f => if f.1.isSameKey key then (f.1, v) else f
  else fields ++ [(key, v)]

/-- Empty and zero values count as false. -/
def truth : Document → Bool
  | null => false
  | bool b => b
  | int n => n != 0
  | real x => !x.isZero
  | text s => !s.isEmpty
  | codes points => !points.isEmpty
  | moment _ => true
  | list items => !items.isEmpty
  | object fields => !fields.isEmpty

/-- The integer of a value: a truth value counts as zero or one, a real number loses its fraction,
a text is read as a numeral. -/
def toInt : Document → Except DataFault Int
  | bool b => .ok (if b then 1 else 0)
  | int n => .ok n
  | real x =>
    match x.truncate? with
    | some n => .ok n
    | none => .error (if x = .undefined then .undefinedReal else .infiniteReal)
  | text s => (Numeral.read s).mapError .numeral
  | codes points => .error (.malformed 10 (quotedCodes points))
  | _ => .error .noNumber

def toInt? : Document → Except DataFault (Option Int)
  | null => .ok none
  | v => v.toInt.map some

def toFields : Document → Except DataFault (List (Document × Document))
  | object fields => .ok fields
  | _ => .error .noFields

/-- The items of a list, the characters of a text, or the keys of an object. -/
def toItems : Document → Except DataFault (List Document)
  | list items => .ok items
  | text s => .ok (s.map fun c => text [c])
  | codes points => .ok (points.map fun n => ofCodes [n])
  | object fields => .ok (fields.map Prod.fst)
  | _ => .error .noItems

mutual

def shown : Document → List Char
  | null => "None".toList
  | bool b => if b then "True".toList else "False".toList
  | int n => Numeral.write n
  | real x => x.write
  | text s => quoted s
  | codes points => quotedCodes points
  | moment m => m.shown
  | list items => '[' :: (joinWith [',', ' '] (shownItems items) ++ [']'])
  | object fields => '{' :: (joinWith [',', ' '] (shownFields fields) ++ ['}'])

def shownItems : List Document → List (List Char)
  | [] => []
  | v :: rest => shown v :: shownItems rest

def shownFields : List (Document × Document) → List (List Char)
  | [] => []
  | (key, v) :: rest => (shown key ++ [':', ' '] ++ shown v) :: shownFields rest

end

def display : Document → List Char
  | text s => s
  | codes points => points.map Char.ofNat
  | moment m => m.write
  | v => shown v

def shownText : Document → List Char
  | codes points => quotedCodes points
  | v => quoted v.display

end Document

def SheetFault.message : SheetFault → List Char
  | unprintable => "a character cannot stand in a sheet".toList
  | token => "no token can stand here".toList
  | order => "a token cannot stand where it does".toList
  | reference => "a name or a document is there twice or not at all".toList
  | tag => "a value is not what its tag says".toList

def DataFault.message : DataFault → List Char
  | noText => "the octets are not UTF-8".toList
  | noDocument => "the text is not a document".toList
  | sheet fault => fault.message
  | tooDeep => "lists and objects are nested too deeply".toList
  | numeral fault => Numeral.message fault
  | malformed base shown =>
    "invalid literal for int() with base ".toList ++ Numeral.writeNat base ++ ": ".toList ++
      shown.take 200
  | emptyNumber => "a number was expected".toList
  | noReal shown => "could not convert string to float: ".toList ++ shown
  | undefinedReal => "cannot convert float NaN to integer".toList
  | infiniteReal => "cannot convert float infinity to integer".toList
  | moment fault => fault.message
  | noMoment => "a moment was expected".toList
  | noTruth word => Text.quoted word
  | noCharacter => "chr() arg not in range(0x110000)".toList
  | noCodePoint => "a code point is too large".toList
  | noNumber => "a number was expected".toList
  | noItems => "a list was expected".toList
  | noFields => "an object was expected".toList
  | missingField name => Text.quoted name
  | escapeLength shown => "escape_char must be a single character, got ".toList ++ shown

end DialogueMarkup
