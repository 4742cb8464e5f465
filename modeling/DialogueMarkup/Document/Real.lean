import DialogueMarkup.Text.Numeral

/-!
Real numbers of double precision: 53 bits before a power of two, infinities, and one value that is
no number. A decimal is read as the nearest of them, a tie going to the even one; a number is
written with the fewest digits that read back as it.
-/
namespace DialogueMarkup

inductive Real
  | finite (negative : Bool) (significand : Nat) (exponent : Int)
  | infinite (negative : Bool)
  | undefined
  deriving DecidableEq, Repr

namespace Real
open Text

/-- The quotient rounded to the nearest integer, a tie to the even one. -/
def roundDiv (a b : Nat) : Nat :=
  let q := a / b
  let r := a % b
  if b < 2 * r ∨ (2 * r = b ∧ q % 2 = 1) then q + 1 else q

def scale (a b : Nat) (k : Int) : Nat × Nat :=
  if 0 ≤ k then (a * Nat.pow 2 k.toNat, b) else (a, b * Nat.pow 2 k.natAbs)

def leastExponent : Int := -1074

def ofFraction (negative : Bool) (a b : Nat) : Real :=
  if a = 0 ∨ b = 0 then .finite negative 0 0
  else
    let guess : Int := max ((a.log2 : Int) - b.log2 - 53) leastExponent
    let (c, d) := scale a b (-guess)
    let k := if c / d < Nat.pow 2 53 then guess else guess + 1
    let (c, d) := scale a b (-k)
    let m := roundDiv c d
    let (m, k) := if m = Nat.pow 2 53 then (Nat.pow 2 52, k + 1) else (m, k)
    if 971 < k then .infinite negative else .finite negative m k

def ofDecimal (negative : Bool) (digits : Nat) (power : Int) : Real :=
  if digits = 0 then .finite negative 0 0
  else
    let size := (Numeral.writeNat digits).length
    if 400 < power + size then .infinite negative
    else if power + size < -400 then .finite negative 0 0
    else if 0 ≤ power then ofFraction negative (digits * Nat.pow 10 power.toNat) 1
    else ofFraction negative digits (Nat.pow 10 power.natAbs)

def isZero : Real → Bool
  | finite _ m _ => m == 0
  | _ => false

def truncate? : Real → Option Int
  | finite negative m k =>
    let (a, b) := scale m 1 k
    let n : Int := (a / b : Nat)
    some (if negative then -n else n)
  | _ => none

def hasFraction : Real → Bool
  | finite _ m k => let (a, b) := scale m 1 k; a % b != 0
  | _ => false

/-- The product of two numbers from zero on. -/
def times : Real → Real → Real
  | finite _ m j, finite _ n k =>
    let (a, b) := scale (m * n) 1 (j + k)
    ofFraction false a b
  | undefined, _ => undefined
  | _, undefined => undefined
  | _, _ => infinite false

/-- The sum of two numbers from zero on. -/
def plus : Real → Real → Real
  | finite _ m j, finite _ n k =>
    let least := min j k
    let (a, b) :=
      scale (m * Nat.pow 2 (j - least).toNat + n * Nat.pow 2 (k - least).toNat) 1 least
    ofFraction false a b
  | undefined, _ => undefined
  | _, undefined => undefined
  | _, _ => infinite false

def signed (negative : Bool) : Real → Real
  | finite _ m k => finite negative m k
  | infinite _ => infinite negative
  | undefined => undefined

/-- The shortest decimal, of at most `left` more digits, that reads back as the number: its digits
and the power of ten that follows them. A fraction `a / b` in `[1, 10)` times `10 ^ power` is the
number; `size` digits have been tried. Of the two decimals around the number the nearer goes
first. -/
def shortest (x : Real) (a b : Nat) (power : Int) : Nat → Nat → Nat × Int
  | 0, size => (roundDiv (a * Nat.pow 10 size) b, power - size)
  | left + 1, size =>
    let near := roundDiv (a * Nat.pow 10 size) b
    let below := a * Nat.pow 10 size / b
    let far := if near = below then below + 1 else below
    match [near, far].find? fun digits => ofDecimal false digits (power - size) = x with
    | some digits => (digits, power - size)
    | none => shortest x a b power left (size + 1)

def shiftDecimal (a b : Nat) (k : Int) : Nat × Nat :=
  if 0 ≤ k then (a, b * Nat.pow 10 k.toNat) else (a * Nat.pow 10 k.natAbs, b)

def firstPower (a b : Nat) : Nat → Int → Int
  | 0, p => p
  | tries + 1, p =>
    let (c, d) := shiftDecimal a b (p + 1)
    if c < d then p else firstPower a b tries (p + 1)

def decimalForm (m : Nat) (k : Int) : List Char × Int :=
  let (a, b) := scale m 1 k
  let first := firstPower a b 5 (((a.log2 : Int) - b.log2 - 1) * 30103 / 100000 - 1)
  let (c, d) := shiftDecimal a b first
  let (digits, power) := shortest (.finite false m k) c d first 16 0
  let written := Numeral.writeNat digits
  let trimmed := (written.reverse.dropWhile (· == '0')).reverse
  (trimmed, power + written.length - 1)

/-- Digits with the point after the first digit, unless there is only one, and an exponent of at
least two digits. -/
def writeScientific (digits : List Char) (power : Int) : List Char :=
  let exponent := Numeral.writeNat power.natAbs
  digits.take 1 ++ (if digits.length = 1 then [] else '.' :: digits.drop 1) ++
    ['e', if power < 0 then '-' else '+'] ++
    (if exponent.length < 2 then '0' :: exponent else exponent)

def writePositional (digits : List Char) (power : Int) : List Char :=
  if power < 0 then
    ['0', '.'] ++ List.replicate (power.natAbs - 1) '0' ++ digits
  else
    let whole := power.toNat + 1
    let filled := digits ++ List.replicate (whole - digits.length) '0'
    filled.take whole ++ '.' :: (if digits.length ≤ whole then ['0'] else filled.drop whole)

/-- A number in text; powers of ten below -4 and from 16 on are written as exponents. -/
def write : Real → List Char
  | undefined => "nan".toList
  | infinite negative => (if negative then ['-'] else []) ++ "inf".toList
  | finite negative m k =>
    (if negative then ['-'] else []) ++
      if m = 0 then "0.0".toList
      else
        let (digits, power) := decimalForm m k
        if -4 ≤ power ∧ power < 16 then writePositional digits power
        else writeScientific digits power

end Real
end DialogueMarkup
