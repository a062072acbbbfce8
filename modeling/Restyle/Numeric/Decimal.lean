import Restyle.Numeric.Binary64

/-!
# Decimal texts of numbers

Two ways to write a number.

* `fixedSix` — six decimal places of the exact value, a tie going to the even last digit.
* `shortest` — the fewest digits that read back as the same number and, of those, the
  nearest; positional while the decimal point stands at most sixteen places after the first
  digit or four before it, otherwise with an exponent of at least two digits.
-/

set_option autoImplicit false

namespace Restyle.Numeric

/-! ## Six decimal places -/

/-- A count of millionths, with six digits after the point. -/
def millionths (n : Nat) : String :=
  let digits := toString (n % 1000000)
  toString (n / 1000000) ++ "." ++ "".pushn '0' (6 - digits.length) ++ digits

/-- Six decimal places. -/
def fixedSix : Binary64 → String
  | .finite v =>
    (if v < 0 then "-" else "") ++ millionths (roundHalfEven (v.num.natAbs * 1000000) v.den)
  | .negativeZero => "-0.000000"
  | .infinite negative => if negative then "-inf" else "inf"
  | .indefinite => "nan"

/-! ## Shortest digits -/

/-- The number of digits before the decimal point of a positive fraction; zero or negative
when zeros follow the point. -/
def pointPosition (q : Rat) : Int :=
  if 1 ≤ q then ((toString q.floor.natAbs).length : Int)
  else match (List.range 330).find? fun k => decide (1 ≤ q * (tenTo (k + 1) : Rat)) with
    | some k => -(k : Int)
    | none => -330

/-- `n` units of the decimal place `place`. -/
def decimalValue (n : Nat) (place : Int) : Rat :=
  if 0 ≤ place then ((n * tenTo place.toNat : Nat) : Rat) else mkRat n (tenTo (-place).toNat)

/-- The count of units of a decimal place that is nearest to `q` among the two neighbours of
`q` that round to `q`; a tie goes to the even count. -/
def neighbour? (q : Rat) (place : Int) : Option Nat :=
  let below := (q / decimalValue 1 place).floor.natAbs
  let low := decimalValue below place
  let high := decimalValue (below + 1) place
  match decide (nearest low = q), decide (nearest high = q) with
  | false, false => none
  | true, false => some below
  | false, true => some (below + 1)
  | true, true =>
    if q - low < high - q then some below
    else if high - q < q - low then some (below + 1)
    else if below % 2 = 0 then some below else some (below + 1)

/-- The shortest digits of a positive number of the format, as a count of units and their
decimal place. -/
def shortestDigits (q : Rat) : Nat × Int :=
  let p := pointPosition q
  let attempt := fun (k : Nat) =>
    let place : Int := p - (k + 1)
    (neighbour? q place).map fun n => (n, place)
  ((List.range 17).findSome? attempt).getD (0, 0)

/-- Digits without zeros at the end. -/
def significant (digits : List Char) : List Char := (digits.reverse.dropWhile (· == '0')).reverse

/-- The text of an exponent: a sign and at least two digits. -/
def exponentText (e : Int) : String :=
  let digits := toString e.natAbs
  (if e < 0 then "-" else "+") ++ (if digits.length < 2 then "0" else "") ++ digits

/-- Digits with the decimal point `point` places after the first one's left side. -/
def placePoint (digits : List Char) (point : Int) : String :=
  let text := String.ofList digits
  let count : Int := digits.length
  if -4 < point && point ≤ 16 then
    if point ≤ 0 then "0." ++ "".pushn '0' (-point).toNat ++ text
    else if count ≤ point then text ++ "".pushn '0' (point - count).toNat ++ ".0"
    else String.ofList (digits.take point.toNat) ++ "." ++ String.ofList (digits.drop point.toNat)
  else
    let rest := digits.drop 1
    String.ofList (digits.take 1) ++
      (if rest.isEmpty then "" else "." ++ String.ofList rest) ++ "e" ++ exponentText (point - 1)

/-- The shortest text of a positive number. -/
def shortestPositive (q : Rat) : String :=
  let (n, place) := shortestDigits q
  let all := (toString n).toList
  placePoint (significant all) (place + (all.length : Int))

/-- The shortest text that reads back as the same number. -/
def shortest : Binary64 → String
  | .finite v =>
    if v = 0 then "0.0" else if v < 0 then "-" ++ shortestPositive (-v) else shortestPositive v
  | .negativeZero => "-0.0"
  | .infinite negative => if negative then "-inf" else "inf"
  | .indefinite => "nan"

end Restyle.Numeric
