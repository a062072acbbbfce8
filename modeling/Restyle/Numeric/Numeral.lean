import Restyle.Numeric.Binary64
import Restyle.Text.Blank
import Restyle.Text.Digit
import Restyle.Text.Case

/-!
# Reading numerals

The grammar of the numbers that settings and colour notations may hold.  Digits of every
script count, and a single underscore may stand between two digits.

* `wholeNumber?` — an optional sign and digits.
* `decimalNumber?` — an optional sign, digits with an optional fraction and exponent, or one
  of the words for infinity and for no number; the value is rounded once.
* `plainDecimal` — the value of unsigned digits with an optional fraction, as colours have it.
-/

set_option autoImplicit false

namespace Restyle.Numeric

open Restyle.Text

/-- White space that may surround a numeral: all but the ASCII separators. -/
def isNumeralBlank (c : Char) : Bool := isBlank c && !(28 ≤ c.toNat && c.toNat ≤ 31)

/-- A numeral without the white space around it. -/
def trimNumeral (cs : List Char) : List Char :=
  ((cs.dropWhile isNumeralBlank).reverse.dropWhile isNumeralBlank).reverse

/-- Splits off a sign; `true` is a minus. -/
def takeSign : List Char → Bool × List Char
  | '-' :: rest => (true, rest)
  | '+' :: rest => (false, rest)
  | cs => (false, cs)

/-- Removes underscores that stand between two digits; `none` if one stands elsewhere.
`afterDigit` says whether a digit precedes. -/
def dropUnderscores (afterDigit : Bool) : List Char → Option (List Char)
  | [] => some []
  | '_' :: rest =>
    match rest with
    | d :: _ => if afterDigit && isDigit d then dropUnderscores false rest else none
    | [] => none
  | c :: rest => (dropUnderscores (isDigit c) rest).map (c :: ·)

/-- A whole number: an optional sign and at least one digit. -/
def wholeNumber? (s : String) : Option Int := do
  let cs ← dropUnderscores false (trimNumeral s.toList)
  let (negative, digits) := takeSign cs
  if digits.isEmpty || !digits.all isDigit then none
  else
    let n : Int := digitsValue digits
    some (if negative then -n else n)

/-- The number `n * 10 ^ e`, rounded once.  What lies far outside the format is decided by the
count of digits. -/
def scaledByTen (n : Nat) (e : Int) : Binary64 :=
  let size : Int := ((toString n).length : Int) + e
  if n = 0 || size < -400 then .finite 0
  else if 400 < size then .infinite false
  else if 0 ≤ e then .ofRat ((n * tenTo e.toNat : Nat) : Rat)
  else .ofRat (mkRat n (tenTo (-e).toNat))

/-- The value of unsigned digits with a fraction. -/
def plainDecimal (whole fraction : List Char) : Binary64 :=
  scaledByTen (digitsValue (whole ++ fraction)) (-(fraction.length : Int))

/-- The exponent part of a decimal: nothing, or `e` with an optional sign and digits. -/
def exponentPart? : List Char → Option Int
  | [] => some 0
  | c :: rest =>
    if c == 'e' || c == 'E' then
      let (negative, digits) := takeSign rest
      if digits.isEmpty || !digits.all isDigit then none
      else
        let n : Int := digitsValue digits
        some (if negative then -n else n)
    else none

/-- Splits off a fraction: a point and digits. -/
def takeFraction : List Char → List Char × List Char
  | '.' :: rest => rest.span isDigit
  | cs => ([], cs)

/-- An unsigned decimal: digits before or after the point, and an optional exponent. -/
def unsignedDecimal? (cs : List Char) : Option Binary64 := do
  let (whole, rest) := cs.span isDigit
  let (fraction, rest) := takeFraction rest
  if whole.isEmpty && fraction.isEmpty then none
  else
    let e ← exponentPart? rest
    some (scaledByTen (digitsValue (whole ++ fraction)) (e - (fraction.length : Int)))

/-- A decimal number or one of the words for infinity and for no number. -/
def decimalNumber? (s : String) : Option Binary64 := do
  let cs ← dropUnderscores false (trimNumeral s.toList)
  let (negative, rest) := takeSign cs
  let word := String.ofList (rest.map Char.toLower)
  let x ←
    if word = "inf" || word = "infinity" then some (.infinite false)
    else if word = "nan" then some .indefinite
    else unsignedDecimal? rest
  some (if negative then x.neg else x)

end Restyle.Numeric
