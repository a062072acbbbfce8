import Restyle.Color.Hsl
import Restyle.Command.Intent

/-!
# Adjusting a colour

A colour moves by fixed steps of lightness, saturation or hue.  Saturation and lightness stop
at the ends of their range and the hue goes round; more contrast means more saturation and a
lightness further from the middle.
-/

set_option autoImplicit false

namespace Restyle.Change

open Restyle.Color Restyle.Command Restyle.Numeric

/-- What can be adjusted in a colour. -/
inductive ColorProperty where
  | lightness
  | saturation
  | hue
  | contrast
  deriving DecidableEq, Repr

namespace ColorProperty

/-- The name of a property. -/
def name : ColorProperty → String
  | .lightness => "lightness"
  | .saturation => "saturation"
  | .hue => "hue"
  | .contrast => "contrast"

/-- The property of a name. -/
def ofName? (name : String) : Option ColorProperty :=
  if name = "lightness" then some .lightness
  else if name = "saturation" then some .saturation
  else if name = "hue" then some .hue
  else if name = "contrast" then some .contrast
  else none

end ColorProperty

/-- A component brought into the range from 0 to 100. -/
def percent (x : Binary64) : Binary64 := Binary64.clamp (.finite 0) (.finite 100) x

/-- A step in a direction. -/
def step (direction : Direction) (size : Rat) : Binary64 := .finite ((direction.sign : Rat) * size)

/-- The colour one step further in a direction. -/
def adjust (c : Hsl) (direction : Direction) (property : ColorProperty) : Hsl :=
  match property with
  | .lightness => { c with lightness := percent (c.lightness.add (step direction 10)) }
  | .saturation => { c with saturation := percent (c.saturation.add (step direction 10)) }
  | .hue => { c with hue := (c.hue.add (step direction 30)).onCircle 360 }
  | .contrast =>
    let outward :=
      if (Binary64.finite 50).lt c.lightness then step direction 5 else step direction.inverted 5
    { c with
      saturation := percent (c.saturation.add (step direction 15))
      lightness := percent (c.lightness.add outward) }

/-- The stored text of a colour that a function changes; `none` for a text that is no colour. -/
def mapColor (f : Hsl → Hsl) (color : String) : Except RoundingError (Option String) :=
  match Hsl.read? color with
  | none => .ok none
  | some c => (f c).text.map some

/-- A colour with so much more lightness. -/
def lighter (amount : Binary64) (color : String) : Except RoundingError (Option String) :=
  mapColor (fun c => { c with lightness := percent (c.lightness.add amount) }) color

/-- A colour with so much less lightness. -/
def darker (amount : Binary64) (color : String) : Except RoundingError (Option String) :=
  mapColor (fun c => { c with lightness := percent (c.lightness.sub amount) }) color

/-- A colour with so much more saturation. -/
def saturated (amount : Binary64) (color : String) : Except RoundingError (Option String) :=
  mapColor (fun c => { c with saturation := percent (c.saturation.add amount) }) color

end Restyle.Change
