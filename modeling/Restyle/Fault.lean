import Restyle.Command.Intent
import Restyle.Numeric.Binary64

/-!
# Faults

A command that cannot be carried out is answered with a result that says so.  Beyond that two
faults stop a command: a colour component without a nearest whole number, and a word in the
place of a direction that is none.
-/

set_option autoImplicit false

namespace Restyle

open Restyle.Command Restyle.Numeric

/-- What stops a command. -/
inductive Fault where
  | rounding (e : RoundingError)
  | direction (e : DirectionError)
  deriving DecidableEq, Repr

/-- The wording of a fault. -/
def Fault.message : Fault → String
  | .rounding e => e.message
  | .direction e => e.message

end Restyle
