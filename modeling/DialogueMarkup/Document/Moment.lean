import DialogueMarkup.Text.Lines
import DialogueMarkup.Text.Numeral

/-!
Days of the calendar and moments of a day. A moment may say how far its clock is from universal
time; it is written as a text, or as it is shown inside messages.
-/
namespace DialogueMarkup
open Text

/-- A time of the day, in hours, minutes, seconds and millionths of a second, on a clock that is
some minutes ahead of universal time. -/
structure ClockTime where
  hour : Nat
  minute : Nat
  second : Nat
  micro : Nat
  ahead : Option Int
  deriving DecidableEq, Repr

structure Moment where
  year : Nat
  month : Nat
  day : Nat
  time : Option ClockTime
  deriving DecidableEq, Repr

inductive MomentFault
  | year (n : Nat)
  | month
  | day
  | hour
  | minute
  | second
  /-- the clock is a day or more from universal time -/
  | ahead (minutes : Int)
  deriving DecidableEq, Repr

namespace Moment

def isLeap (year : Nat) : Bool := year % 4 == 0 && (year % 100 != 0 || year % 400 == 0)

def daysOf (year month : Nat) : Nat :=
  if month = 2 then if isLeap year then 29 else 28
  else if [4, 6, 9, 11].contains month then 30
  else 31

def dayMinutes : Int := 1440

def make (m : Moment) : Except MomentFault Moment := do
  match m.time.bind ClockTime.ahead with
  | some minutes => if dayMinutes ≤ minutes.natAbs then throw (.ahead minutes)
  | none => pure ()
  if m.year = 0 then throw (.year m.year)
  if m.month < 1 ∨ 12 < m.month then throw .month
  if m.day < 1 ∨ daysOf m.year m.month < m.day then throw .day
  match m.time with
  | none => return m
  | some t =>
    if 23 < t.hour then throw .hour
    if 59 < t.minute then throw .minute
    if 59 < t.second then throw .second
    return m

def padded (size n : Nat) : List Char :=
  let digits := Numeral.writeNat n
  List.replicate (size - digits.length) '0' ++ digits

def writeAhead (minutes : Int) : List Char :=
  (if minutes < 0 then '-' else '+') ::
    (padded 2 (minutes.natAbs / 60) ++ ':' :: padded 2 (minutes.natAbs % 60))

def write (m : Moment) : List Char :=
  padded 4 m.year ++ '-' :: padded 2 m.month ++ '-' :: padded 2 m.day ++
    match m.time with
    | none => []
    | some t =>
      ' ' :: padded 2 t.hour ++ ':' :: padded 2 t.minute ++ ':' :: padded 2 t.second ++
        (if t.micro = 0 then [] else '.' :: padded 6 t.micro) ++
        (t.ahead.map writeAhead).getD []

def shownSpan (minutes : Int) : List Char :=
  let days := Int.fdiv minutes dayMinutes
  let seconds := Int.fmod minutes dayMinutes * 60
  let parts :=
    (if days = 0 then [] else ["days=".toList ++ Numeral.write days]) ++
      (if seconds = 0 then [] else ["seconds=".toList ++ Numeral.write seconds])
  "datetime.timedelta(".toList ++
    (if parts.isEmpty then ['0'] else joinWith [',', ' '] parts) ++ [')']

def shownAhead (minutes : Int) : List Char :=
  if minutes = 0 then "datetime.timezone.utc".toList
  else "datetime.timezone(".toList ++ shownSpan minutes ++ [')']

/-- A moment as it is shown inside messages; seconds and their parts are left out when they are
zero at the end. -/
def shown (m : Moment) : List Char :=
  let date := [m.year, m.month, m.day].map Numeral.writeNat
  match m.time with
  | none => "datetime.date(".toList ++ joinWith [',', ' '] date ++ [')']
  | some t =>
    let time := [t.hour, t.minute] ++
      (if t.micro ≠ 0 then [t.second, t.micro] else if t.second ≠ 0 then [t.second] else [])
    let zone := (t.ahead.map fun n => ["tzinfo=".toList ++ shownAhead n]).getD []
    "datetime.datetime(".toList ++
      joinWith [',', ' '] (date ++ time.map Numeral.writeNat ++ zone) ++ [')']

end Moment

def MomentFault.message : MomentFault → List Char
  | year n => "year ".toList ++ Numeral.writeNat n ++ " is out of range".toList
  | month => "month must be in 1..12".toList
  | day => "day is out of range for month".toList
  | hour => "hour must be in 0..23".toList
  | minute => "minute must be in 0..59".toList
  | second => "second must be in 0..59".toList
  | ahead minutes =>
    "offset must be a timedelta strictly between -timedelta(hours=24) and ".toList ++
      "timedelta(hours=24), not ".toList ++ Moment.shownSpan minutes ++ ['.']

end DialogueMarkup
