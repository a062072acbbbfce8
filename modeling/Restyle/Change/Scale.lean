import Restyle.Command.Intent
import Restyle.Vocabulary.Sizes

/-!
# Scales

The roundness of corners, the spacing, and the size and weight of text are stored as values of
named steps.  A scale moves one step at a time and stops at either end.
-/

set_option autoImplicit false

namespace Restyle.Change

open Restyle.Command Restyle.Text Restyle.Vocabulary

/-- An ordered scale that is stored in one token. -/
structure Scale where
  token : String
  property : String
  steps : List String
  /-- The stored value of every step. -/
  values : Table
  defaultStep : String
  /-- Words for steps. -/
  aliases : Table
  /-- Other stored values, with the step as which they are read. -/
  readings : Table := []
  deriving DecidableEq, Repr

namespace Scale

/-- The step of a stored value; the default step when it is none of the scale. -/
def stepFor (s : Scale) (value : String) : String :=
  let value := trim value
  match s.values.find? fun entry => entry.2 == value with
  | some (step, _) => step
  | none => (s.readings.lookup value).getD s.defaultStep

/-- The place of a step; that of the default step for any other word. -/
def indexOf (s : Scale) (step : String) : Nat :=
  if s.steps.contains step then s.steps.idxOf step else s.steps.idxOf s.defaultStep

/-- The step that lies so many steps further, or the last one on the way. -/
def move (s : Scale) (step : String) (count : Int) : String :=
  let target : Int := (s.indexOf step : Int) + count
  let last : Int := (s.steps.length : Int) - 1
  (s.steps[(max 0 (min last target)).toNat]?).getD s.defaultStep

/-- The step that a word names. -/
def lookup? (s : Scale) (term : String) : Option String :=
  let key := tableKey term
  if s.values.has key then some key else s.aliases.lookup key

/-- The stored value of a step. -/
def value? (s : Scale) (step : String) : Option String := s.values.lookup step

/-- The step that a word names, with its stored value. -/
def valueOfTerm? (s : Scale) (term : String) : Option (String × String) := do
  let step ← s.lookup? term
  let value ← s.value? step
  some (step, value)

/-- One step in a direction from a stored value: the new step and its stored value. -/
def stepped (s : Scale) (value : String) (direction : Direction) : String × String :=
  let step := s.move (s.stepFor value) direction.sign
  (step, (s.value? step).getD "")

end Scale

/-! ## The four scales -/

/-- The roundness of corners. -/
def radiusScale : Scale where
  token := "radius"
  property := "borderRadius"
  steps := ["none", "sm", "md", "lg", "xl", "full"]
  values := [("none", "0"), ("sm", "0.25rem"), ("md", "0.5rem"), ("lg", "0.75rem"), ("xl", "1rem"),
    ("full", "9999px")]
  defaultStep := "md"
  aliases := radiusWords
  readings := [("0px", "none"), ("0.125rem", "sm"), ("0.375rem", "md"), ("1.5rem", "xl")]

/-- The space between things. -/
def spacingScale : Scale where
  token := "spacing"
  property := "spacing"
  steps := ["xs", "sm", "md", "lg", "xl", "2xl"]
  values := [("xs", "0.5rem"), ("sm", "0.75rem"), ("md", "1rem"), ("lg", "1.5rem"), ("xl", "2rem"),
    ("2xl", "3rem")]
  defaultStep := "md"
  aliases := spacingWords

/-- The size of text. -/
def fontSizeScale : Scale where
  token := "font-size"
  property := "fontSize"
  steps := ["xs", "sm", "base", "lg", "xl", "2xl", "3xl"]
  values := [("xs", "0.75rem"), ("sm", "0.875rem"), ("base", "1rem"), ("lg", "1.125rem"),
    ("xl", "1.25rem"), ("2xl", "1.5rem"), ("3xl", "1.875rem")]
  defaultStep := "base"
  aliases := fontSizeWords

/-- The weights of text. -/
def fontWeights : List String := ["100", "200", "300", "400", "500", "600", "700", "800", "900"]

/-- The weight of text. -/
def fontWeightScale : Scale where
  token := "font-weight"
  property := "fontWeight"
  steps := fontWeights
  values := fontWeights.map fun w => (w, w)
  defaultStep := "400"
  aliases := fontWeightWords

/-- The scales. -/
def scales : List Scale := [radiusScale, spacingScale, fontSizeScale, fontWeightScale]

/-- The scale that is stored in a token. -/
def scale? (token : String) : Option Scale := scales.find? (·.token == token)

end Restyle.Change
