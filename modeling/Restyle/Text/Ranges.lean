/-!
# Sets of code points

A large set of code points is written as the increasing list of the places where membership
changes: a code point is inside when an odd number of them lies at or before it.
-/

set_option autoImplicit false

namespace Restyle.Text

/-- Whether a code point is inside, for a list of changes that begins on the `start` side. -/
def insideFrom (start : Bool) : List Nat → Nat → Bool
  | [], _ => start
  | b :: rest, n => if n < b then start else insideFrom (!start) rest n

/-- Membership in the set that changes at the listed code points. -/
def inside (changes : List Nat) (n : Nat) : Bool := insideFrom false changes n

end Restyle.Text
