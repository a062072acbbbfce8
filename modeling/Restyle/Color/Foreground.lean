import Restyle.Color.Hsl

/-!
# Readable foregrounds

A foreground is chosen for a surface by its lightness alone: above the threshold the dark one,
otherwise the light one.  A surface that is not a stored colour has no foreground.
-/

set_option autoImplicit false

namespace Restyle.Color

open Restyle.Numeric

/-- The choice between two foregrounds. -/
structure ForegroundRule where
  /-- Surfaces lighter than this get the dark foreground. -/
  threshold : Binary64 := .finite 50
  dark : String := "240 5.9% 10%"
  light : String := "0 0% 98%"
  deriving DecidableEq, Repr

/-- The foreground for a surface. -/
def ForegroundRule.foregroundFor? (rule : ForegroundRule) (surface : String) : Option String :=
  (Hsl.read? surface).map fun c =>
    if rule.threshold.lt c.lightness then rule.dark else rule.light

end Restyle.Color
