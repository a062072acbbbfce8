import Restyle.Numeric.Power

/-!
# Binary floating-point numbers with exact values

A `Binary64` is a number of the binary format with 53 significant bits: a finite number is
kept as the exact fraction that it denotes, and the two infinities, the negative zero and
the indefinite result have their own constructors.  Every operation computes exactly and
rounds once, to the nearest number of the format and in a tie to the one with an even
last bit.

* `nearest` — the rounding of a fraction to 53 significant bits, with no upper limit.
* `Binary64.ofRat` — the same with overflow to an infinity.
* `Binary64.roundHalfUp` — the whole number next to a value, halves going up; it exists for
  every finite value and for no other.
-/

set_option autoImplicit false

namespace Restyle.Numeric

/-! ## Rounding to the format -/

/-- The whole number nearest to `n / d`; a tie goes to the even one. -/
def roundHalfEven (n d : Nat) : Nat :=
  let q := n / d
  let r := n % d
  if 2 * r < d then q
  else if d < 2 * r then q + 1
  else if q % 2 = 0 then q else q + 1

/-- The exponent of the last bit that a positive `n / d` keeps: 53 bits are significant, and
no bit is worth less than `2 ^ (-1074)`. -/
def lastBitExponent (n d : Nat) : Int :=
  let k : Int := (Nat.log2 n : Int) - (Nat.log2 d : Int)
  let small : Bool := if 0 ≤ k then n < d * twoTo k.toNat else n * twoTo (-k).toNat < d
  let top := if small then k - 1 else k
  max (top - 52) (-1074)

/-- A positive `n / d` rounded to the format. -/
def nearestPositive (n d : Nat) : Rat :=
  let e := lastBitExponent n d
  if 0 ≤ e then
    ((roundHalfEven n (d * twoTo e.toNat) * twoTo e.toNat : Nat) : Rat)
  else
    mkRat (roundHalfEven (n * twoTo (-e).toNat) d) (twoTo (-e).toNat)

/-- A fraction rounded to the format, ignoring the upper limit of the exponent. -/
def nearest (q : Rat) : Rat :=
  if q.num = 0 then 0
  else if 0 < q.num then nearestPositive q.num.natAbs q.den
  else -nearestPositive q.num.natAbs q.den

/-- The least power of two that is too large for the format. -/
def overflowBound : Rat := (twoTo 1024 : Rat)

/-! ## Numbers -/

/-- A number of the format. -/
inductive Binary64 where
  /-- A finite number other than negative zero, with its exact value. -/
  | finite (value : Rat)
  | negativeZero
  | infinite (negative : Bool)
  /-- The result of an operation that has none, such as the remainder of an infinity. -/
  | indefinite
  deriving DecidableEq, Repr

/-- Why a number has no nearest whole number. -/
inductive RoundingError where
  | infinite
  | indefinite
  deriving DecidableEq, Repr

/-- The wording of a rounding error. -/
def RoundingError.message : RoundingError → String
  | .infinite => "cannot convert float infinity to integer"
  | .indefinite => "cannot convert float NaN to integer"

namespace Binary64

instance : Inhabited Binary64 := ⟨.finite 0⟩

/-- A fraction rounded to the format; what is too large becomes infinite, and a negative
fraction that rounds to zero keeps its sign. -/
def ofRat (q : Rat) : Binary64 :=
  let v := nearest q
  if v = 0 then
    if q < 0 then .negativeZero else .finite 0
  else if overflowBound ≤ v then .infinite false
  else if v ≤ -overflowBound then .infinite true
  else .finite v

/-- A whole number rounded to the format. -/
def ofInt (n : Int) : Binary64 := ofRat (n : Rat)

/-- The exact value of a finite number. -/
def toRat? : Binary64 → Option Rat
  | .finite v => some v
  | .negativeZero => some 0
  | _ => none

/-- The opposite number. -/
def neg : Binary64 → Binary64
  | .finite v => if v = 0 then .negativeZero else .finite (-v)
  | .negativeZero => .finite 0
  | .infinite negative => .infinite (!negative)
  | .indefinite => .indefinite

/-- The rounded sum. -/
def add : Binary64 → Binary64 → Binary64
  | .indefinite, _ => .indefinite
  | _, .indefinite => .indefinite
  | .infinite a, .infinite b => if a = b then .infinite a else .indefinite
  | .infinite a, _ => .infinite a
  | _, .infinite b => .infinite b
  | .negativeZero, y => y
  | x, .negativeZero => x
  | .finite a, .finite b => ofRat (a + b)

/-- The rounded difference. -/
def sub (x y : Binary64) : Binary64 := x.add y.neg

/-- Strictly less; an indefinite number is comparable with nothing. -/
def lt : Binary64 → Binary64 → Bool
  | .indefinite, _ => false
  | _, .indefinite => false
  | .infinite a, .infinite b => a && !b
  | .infinite a, _ => a
  | _, .infinite b => !b
  | x, y => decide (x.toRat?.getD 0 < y.toRat?.getD 0)

/-- Less or equal; an indefinite number is comparable with nothing. -/
def le : Binary64 → Binary64 → Bool
  | .indefinite, _ => false
  | _, .indefinite => false
  | x, y => !y.lt x

/-- The value brought into the range from `low` to `high`. -/
def clamp (low high x : Binary64) : Binary64 :=
  let capped := if x.lt high then x else high
  if low.lt capped then capped else low

/-- The remainder on a circle of the given positive length: the exact remainder, moved up
by one turn (with rounding) when it is negative. -/
def onCircle (turn : Rat) : Binary64 → Binary64
  | .finite v =>
    let q := v / turn
    let whole : Int := if 0 ≤ q then q.floor else -(-q).floor
    let r := v - turn * (whole : Rat)
    if r < 0 then ofRat (r + turn) else .finite r
  | .negativeZero => .finite 0
  | .infinite _ => .indefinite
  | .indefinite => .indefinite

/-- The whole number nearest to a finite value, halves going up.  One half is added with
rounding before the fraction is cut off. -/
def roundHalfUp (x : Binary64) : Except RoundingError Int :=
  match x.add (.finite (1 / 2)) with
  | .finite v => .ok v.floor
  | .negativeZero => .ok 0
  | .infinite _ => .error .infinite
  | .indefinite => .error .indefinite

end Binary64

end Restyle.Numeric
