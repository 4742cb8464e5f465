import DialogueMarkup.Text.Casing
import DialogueMarkup.Text.Lines
import DialogueMarkup.Text.Numeral

/-!
Styles of the console: attributes that are on or off, a colour, a colour behind the text, and a
link. A style is written in words, and styles with the same effect have the same normal name.
-/
namespace DialogueMarkup.Console
open Text

inductive Attribute
  | bold | dim | italic | underline | blink | blink2 | reverse | conceal | strike | underline2
  | frame | encircle | overline
  deriving DecidableEq, Repr

namespace Attribute

def names : List (Attribute × String) := [
  (bold, "bold"), (dim, "dim"), (italic, "italic"), (underline, "underline"), (blink, "blink"),
  (blink2, "blink2"), (.reverse, "reverse"), (conceal, "conceal"), (strike, "strike"),
  (underline2, "underline2"), (frame, "frame"), (encircle, "encircle"), (overline, "overline")]

def shortNames : List (Attribute × String) := [
  (bold, "b"), (dim, "d"), (italic, "i"), (underline, "u"), (.reverse, "r"), (conceal, "c"),
  (strike, "s"), (underline2, "uu"), (overline, "o")]

def ofName? (word : List Char) : Option Attribute :=
  ((names ++ shortNames).find? fun e => e.2.toList == word).map Prod.fst

end Attribute

def colorTable : String :=
  "black red green yellow blue magenta cyan white bright_black bright_red bright_green
bright_yellow bright_blue bright_magenta bright_cyan bright_white grey0 gray0 navy_blue
dark_blue blue3 blue1 dark_green deep_sky_blue4 dodger_blue3 dodger_blue2 green4 spring_green4
turquoise4 deep_sky_blue3 dodger_blue1 green3 spring_green3 dark_cyan light_sea_green
deep_sky_blue2 deep_sky_blue1 spring_green2 cyan3 dark_turquoise turquoise2 green1 spring_green1
medium_spring_green cyan2 cyan1 dark_red deep_pink4 purple4 purple3 blue_violet orange4 grey37
gray37 medium_purple4 slate_blue3 royal_blue1 chartreuse4 dark_sea_green4 pale_turquoise4
steel_blue steel_blue3 cornflower_blue chartreuse3 cadet_blue sky_blue3 steel_blue1 pale_green3
sea_green3 aquamarine3 medium_turquoise chartreuse2 sea_green2 sea_green1 aquamarine1
dark_slate_gray2 dark_magenta dark_violet purple light_pink4 plum4 medium_purple3 slate_blue1
yellow4 wheat4 grey53 gray53 light_slate_grey light_slate_gray medium_purple light_slate_blue
dark_olive_green3 dark_sea_green light_sky_blue3 sky_blue2 dark_sea_green3 dark_slate_gray3
sky_blue1 chartreuse1 light_green pale_green1 dark_slate_gray1 red3 medium_violet_red magenta3
dark_orange3 indian_red hot_pink3 medium_orchid3 medium_orchid medium_purple2 dark_goldenrod
light_salmon3 rosy_brown grey63 gray63 medium_purple1 gold3 dark_khaki navajo_white3 grey69
gray69 light_steel_blue3 light_steel_blue yellow3 dark_sea_green2 light_cyan3 light_sky_blue1
green_yellow dark_olive_green2 dark_sea_green1 pale_turquoise1 deep_pink3 magenta2 hot_pink2
orchid medium_orchid1 orange3 light_pink3 pink3 plum3 violet light_goldenrod3 tan misty_rose3
thistle3 plum2 khaki3 light_goldenrod2 light_yellow3 grey84 gray84 light_steel_blue1 yellow2
dark_olive_green1 honeydew2 light_cyan1 red1 deep_pink2 deep_pink1 magenta1 orange_red1
indian_red1 hot_pink dark_orange salmon1 light_coral pale_violet_red1 orchid2 orchid1 orange1
sandy_brown light_salmon1 light_pink1 pink1 plum1 gold1 navajo_white1 misty_rose1 thistle1
yellow1 light_goldenrod1 khaki1 wheat1 cornsilk1 grey100 gray100 grey3 gray3 grey7 gray7 grey11
gray11 grey15 gray15 grey19 gray19 grey23 gray23 grey27 gray27 grey30 gray30 grey35 gray35
grey39 gray39 grey42 gray42 grey46 gray46 grey50 gray50 grey54 gray54 grey58 gray58 grey62
gray62 grey66 gray66 grey70 gray70 grey74 gray74 grey78 gray78 grey82 gray82 grey85 gray85
grey89 gray89 grey93 gray93"

/-- A colour by number, up to 255. -/
def isNumberedColor (digits : List Char) : Bool :=
  !digits.isEmpty && digits.length ≤ 3 && digits.all Char.isDigit &&
    Numeral.value (digits.map fun c => c.toNat - '0'.toNat) ≤ 255

def isMixedColor (parts : List Char) : Except NumeralFault Bool :=
  if parts.isEmpty || !parts.all fun c => isDecimal c || c == ',' then .ok false
  else match parts.splitOn ',' with
    | [red, green, blue] => do
      let shares ← [red, green, blue].mapM Numeral.read
      return shares.all (· ≤ 255)
    | _ => .ok false

def inBrackets? (name : String) (word : List Char) : Option (List Char) :=
  let opening := name.toList ++ ['(']
  if opening.isPrefixOf word && word.getLast? == some ')' && opening.length < word.length then
    some ((word.drop opening.length).dropLast)
  else none

/-- A word in small letters is a colour: a name, six hexadecimal digits after a number sign, a
number, or a mixture. -/
def isColor (word : List Char) : Except NumeralFault Bool :=
  if word = "default".toList || (words colorTable.toList).contains word then .ok true
  else match word with
    | '#' :: digits =>
      .ok (digits.length = 6 && digits.all fun c => c.isDigit || ('a' ≤ c && c ≤ 'f'))
    | word =>
      match inBrackets? "color" word, inBrackets? "rgb" word with
      | some digits, _ => .ok (isNumberedColor digits)
      | _, some parts => isMixedColor parts
      | none, none => .ok false

structure Style where
  attributes : List (Attribute × Bool) := []
  color : Option (List Char) := none
  background : Option (List Char) := none
  link : Option (List Char) := none
  deriving Repr

namespace Style

def set (style : Style) (a : Attribute) (on : Bool) : Style :=
  { style with attributes := (a, on) :: style.attributes }

/-- Adds what words say to a style; none when they say nothing known. -/
def read (style : Style) : List (List Char) → Except NumeralFault (Option Style)
  | [] => .ok (some style)
  | word :: rest =>
    let small := lower word
    if small = "on".toList then
      match rest with
      | [] => .ok none
      | color :: rest => do
        if ← isColor (lower color) then
          read { style with background := some (lower color) } rest
        else return none
    else if small = "not".toList then
      match rest with
      | [] => .ok none
      | name :: rest =>
        match Attribute.ofName? name with
        | some a => read (style.set a false) rest
        | none => .ok none
    else if small = "link".toList then
      match rest with
      | [] => .ok none
      | target :: rest => read { style with link := some target } rest
    else match Attribute.ofName? small with
      | some a => read (style.set a true) rest
      | none => do
        if ← isColor small then read { style with color := some small } rest else return none

def toWords (style : Style) : List (List Char) :=
  let attributes := Attribute.names.flatMap fun (a, name) =>
    match style.attributes.lookup a with
    | some true => [name.toList]
    | some false => ["not".toList, name.toList]
    | none => []
  attributes ++ style.color.toList ++
    (style.background.map fun c => ["on".toList, c]).getD [] ++
    (style.link.map fun t => ["link".toList, t]).getD []

/-- The normal name of what a text says about style; a text that says nothing known is its own
name in small letters. -/
def normalName (s : List Char) : Except NumeralFault (List Char) := do
  if trim s = "none".toList then return "none".toList
  match ← read {} (words s) with
  | some style => return joinWith [' '] style.toWords
  | none => return lower (trim s)

end Style
end DialogueMarkup.Console
