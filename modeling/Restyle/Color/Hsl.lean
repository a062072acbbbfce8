import Restyle.Numeric.Numeral

/-!
# Colours as hue, saturation and lightness

The stored form of a colour is the text `H S% L%`: three unsigned decimals separated by white
space, the last two with a percent sign.

* `Component.readings` — the ways to take a decimal from the front of a text, longest first.
* `Hsl.read?` — the colour of a stored text.
* `Hsl.text` — the stored text of a colour, every component rounded to a whole number; it
  exists when all three components are finite.
-/

set_option autoImplicit false

namespace Restyle.Color

open Restyle.Numeric Restyle.Text

/-! ## Components -/

/-- An unsigned decimal as it is written: digits, and the digits of a fraction if it has one. -/
structure Component where
  whole : List Char
  fraction : List Char
  deriving DecidableEq, Repr

namespace Component

/-- The characters of a component. -/
def chars (c : Component) : List Char :=
  if c.fraction.isEmpty then c.whole else c.whole ++ '.' :: c.fraction

/-- The text of a component. -/
def text (c : Component) : String := String.ofList c.chars

/-- The value of a component. -/
def value (c : Component) : Binary64 := plainDecimal c.whole c.fraction

/-- The ways to cut a row of digits off the front of a text, longest first; at least one digit
is taken. -/
def digitRows (cs : List Char) : List (List Char × List Char) :=
  let count := (cs.takeWhile isDigit).length
  ((List.range count).map fun k => (cs.take (count - k), cs.drop (count - k)))

/-- The ways to cut a decimal off the front of a text, longest first: for every row of digits
first those with a fraction, then the one without. -/
def readings (cs : List Char) : List (Component × List Char) :=
  (digitRows cs).flatMap fun (whole, rest) =>
    let fractions := match rest with
      | '.' :: after => (digitRows after).map fun (fraction, rest) => (⟨whole, fraction⟩, rest)
      | _ => []
    fractions ++ [(⟨whole, []⟩, rest)]

end Component

/-- Drops white space at the front. -/
def skipBlanks (cs : List Char) : List Char := cs.dropWhile isBlank

/-- Drops at least one white space character at the front. -/
def skipSomeBlanks? : List Char → Option (List Char)
  | [] => none
  | c :: rest => if isBlank c then some (skipBlanks rest) else none

/-- The text after an expected character. -/
def expect? (c : Char) : List Char → Option (List Char)
  | [] => none
  | d :: rest => if d == c then some rest else none

/-! ## Stored colours -/

/-- The three components of a trimmed stored text. -/
def triple? (cs : List Char) : Option (Component × Component × Component) :=
  (Component.readings cs).findSome? fun (h, rest) => do
    let rest ← skipSomeBlanks? rest
    (Component.readings rest).findSome? fun (s, rest) => do
      let rest ← skipSomeBlanks? (← expect? '%' rest)
      (Component.readings rest).findSome? fun (l, rest) => do
        if (← expect? '%' rest).isEmpty then some (h, s, l) else none

/-- A colour. -/
structure Hsl where
  hue : Binary64
  saturation : Binary64
  lightness : Binary64
  deriving DecidableEq, Repr

namespace Hsl

/-- The colour of a stored text. -/
def read? (s : String) : Option Hsl :=
  (triple? (trimChars s.toList)).map fun (h, s, l) => ⟨h.value, s.value, l.value⟩

/-- Whole-number components as a stored text. -/
def wholeText (h s l : Int) : String := s!"{h} {s}% {l}%"

/-- The stored text of a colour. -/
def text (c : Hsl) : Except RoundingError String := do
  let h ← c.hue.roundHalfUp
  let s ← c.saturation.roundHalfUp
  let l ← c.lightness.roundHalfUp
  return wholeText h s l

end Hsl

end Restyle.Color
