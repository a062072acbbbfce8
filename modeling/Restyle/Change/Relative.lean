import Restyle.Change.Adjust
import Restyle.Change.Scale
import Restyle.Fault

/-!
# Relative changes

"More" or "less" of something is one step on the scale that the words name, or one step of a
property of the bound colour.  Words such as "dark" and "sharp" ask for less of the opposite
property.

* `adjustColor` — the new value of a colour text.
* `relativeChange` — the change that a command asks for, given the stored tokens.
-/

set_option autoImplicit false

namespace Restyle.Change

open Restyle.Color Restyle.Command Restyle.Numeric Restyle.Text

/-! ## Words -/

/-- Words with the property that they name, and whether they name its opposite. -/
def relativeWords : List (String × String × Bool) := [
    ("rounded", "radius", false), ("round", "radius", false), ("corners", "radius", false),
    ("corner", "radius", false), ("radius", "radius", false), ("rounding", "radius", false),
    ("roundness", "radius", false), ("curved", "radius", false), ("soft", "radius", false),
    ("softer", "radius", false), ("sharp", "radius", true), ("square", "radius", true),
    ("squared", "radius", true), ("angular", "radius", true), ("boxy", "radius", true),
    ("light", "lightness", false), ("bright", "lightness", false),
    ("lighter", "lightness", false), ("brighter", "lightness", false),
    ("lightness", "lightness", false), ("brightness", "lightness", false),
    ("dark", "lightness", true), ("darker", "lightness", true), ("darkness", "lightness", true),
    ("dim", "lightness", true), ("saturated", "saturation", false),
    ("saturation", "saturation", false), ("vivid", "saturation", false),
    ("vibrant", "saturation", false), ("colorful", "saturation", false),
    ("intense", "saturation", false), ("muted", "saturation", true),
    ("desaturated", "saturation", true), ("dull", "saturation", true), ("hue", "hue", false),
    ("contrast", "contrast", false), ("pop", "contrast", false), ("bold", "font-weight", false),
    ("heavy", "font-weight", false), ("thick", "font-weight", false),
    ("weight", "font-weight", false), ("boldness", "font-weight", false),
    ("thin", "font-weight", true), ("large", "font-size", false), ("big", "font-size", false),
    ("size", "font-size", false), ("larger", "font-size", false), ("bigger", "font-size", false),
    ("text size", "font-size", false), ("font size", "font-size", false),
    ("small", "font-size", true), ("smaller", "font-size", true), ("tiny", "font-size", true),
    ("spacing", "spacing", false), ("padding", "spacing", false), ("space", "spacing", false),
    ("gap", "spacing", false), ("roomy", "spacing", false), ("airy", "spacing", false),
    ("spacious", "spacing", false), ("tight", "spacing", true), ("compact", "spacing", true),
    ("cramped", "spacing", true), ("dense", "spacing", true)]

/-- The property that a phrase names: the whole phrase is looked up first, then word by
word. -/
def propertyOf? (phrase : String) : Option (String × Bool) :=
  let parts := words (lower phrase)
  match relativeWords.lookup (unwords parts) with
  | some found => some found
  | none => parts.findSome? fun word => relativeWords.lookup word

/-! ## Outcomes -/

/-- A change that was worked out. -/
structure RelativeChange where
  newValue : String
  property : String
  /-- The token and the step, when the property lives in a scale of its own. -/
  scaleStep : Option (String × String) := none
  deriving DecidableEq, Repr

/-- Why there is no change. -/
inductive RelativeFailure where
  | notAColor
  | unknownProperty (property : String)
  | noProperty (phrase : String)
  | noColor
  deriving DecidableEq, Repr

/-- The wording of a failure. -/
def RelativeFailure.message : RelativeFailure → String
  | .notAColor => "Could not parse color value"
  | .unknownProperty property => "Unknown property: " ++ property
  | .noProperty phrase => "Cannot compute relative change for \"" ++ phrase ++ "\""
  | .noColor => "No color to adjust"

/-- The result of working out a change: a fault, a failure, or the change. -/
abbrev Outcome := Except Fault (Except RelativeFailure RelativeChange)

/-! ## Computation -/

/-- The new value of a colour text.  The direction is asked for only when the text is a
colour. -/
def adjustColorBy (current : String) (direction : Except DirectionError Direction)
    (property : String) : Outcome :=
  match Hsl.read? current with
  | none => .ok (.error .notAColor)
  | some c => match direction with
    | .error e => .error (.direction e)
    | .ok d => match ColorProperty.ofName? property with
      | none => .ok (.error (.unknownProperty property))
      | some p => match (adjust c d p).text with
        | .error e => .error (.rounding e)
        | .ok newValue => .ok (.ok { newValue, property })

/-- The new value of a colour text. -/
def adjustColor (current : String) (direction : Direction) (property : String) : Outcome :=
  adjustColorBy current (.ok direction) property

/-- One step of a scale from its stored value. -/
def stepScale (s : Scale) (current : String) (direction : Direction) : RelativeChange :=
  let (step, newValue) := s.stepped current direction
  { newValue, property := s.property, scaleStep := some (s.token, step) }

/-- The change that a phrase and a direction ask for.  `read` gives the stored value of a
token, and `bound` is the token that the command is bound to. -/
def relativeChange (read : String → String) (phrase : String) (direction : Direction)
    (bound : String) : Outcome :=
  match propertyOf? phrase with
  | none => .ok (.error (.noProperty phrase))
  | some (property, inverse) =>
    let direction := if inverse then direction.inverted else direction
    match scale? property with
    | some s => .ok (.ok (stepScale s (read s.token) direction))
    | none =>
      if bound = "" then .ok (.error .noColor)
      else
        let current := read bound
        if current = "" then .ok (.error .noColor)
        else adjustColor current direction property

/-- The direction of a word in any letter case. -/
def directionOfText (text : String) : Except DirectionError Direction :=
  Direction.ofWord (lower text)

end Restyle.Change
