import Restyle.Text.Case

/-!
# Edit distance and similarity

The edit distance of two texts is the least number of single-character insertions, deletions
and substitutions between them.  It is computed row by row over the suffixes of both texts.
Similarity is the share of the longer text that is left unedited.

* `editDistance` — the distance.
* `similarity` — the ratio, on a grid of numbers given by its rounding.
* `startsAlmostWith` — a prefix test with a number of edits to spare.
-/

set_option autoImplicit false

namespace Restyle.Matching

open Restyle.Text

/-! ## Distance -/

/-- The distances of the empty text to every suffix of a text, the whole text first. -/
def emptyRow : List Char → List Nat
  | [] => [0]
  | _ :: ys => (ys.length + 1) :: emptyRow ys

/-- From the distances of `xs` to every suffix of `ys`, those of `x :: xs`. -/
def longerRow (x : Char) : List Char → List Nat → List Nat
  | [], d :: _ => [d + 1]
  | y :: ys, d :: row =>
    match row, longerRow x ys row with
    | e :: _, f :: rest => min (min (d + 1) (f + 1)) (e + if x = y then 0 else 1) :: f :: rest
    | _, _ => []
  | _, [] => []

/-- The distances of a text to every suffix of another one, the whole text first. -/
def distanceRow (ys : List Char) : List Char → List Nat
  | [] => emptyRow ys
  | x :: xs => longerRow x ys (distanceRow ys xs)

/-- The edit distance of two rows of characters. -/
def editDistanceChars (xs ys : List Char) : Nat := (distanceRow ys xs).headD 0

/-- The edit distance of two texts; letter case counts. -/
def editDistance (a b : String) : Nat := editDistanceChars a.toList b.toList

/-! ## Similarity -/

/-- How the numbers of a computation are rounded: `id` for exact fractions. -/
abbrev Rounding := Rat → Rat

/-- One minus the share of edited characters, letter case not counting; one for two empty
texts.  The share is taken of the length before letter case is put aside. -/
def similarity (ρ : Rounding) (a b : String) : Rat :=
  let longer := max a.length b.length
  if longer = 0 then 1
  else ρ (1 - ρ (mkRat (editDistance (lower a) (lower b)) longer))

/-! ## Prefixes -/

/-- The first `count` entries of a list; a negative count leaves that many off the end. -/
def leading {α : Type} (count : Int) (xs : List α) : List α :=
  if 0 ≤ count then xs.take count.toNat else xs.take (xs.length - (-count).toNat)

theorem leading_natCast {α : Type} (count : Nat) (xs : List α) :
    leading (count : Int) xs = xs.take count := by
  rw [leading, if_pos (Int.natCast_nonneg count), Int.toNat_natCast]

/-- Whether a text starts with another one, or its beginning of that length and `spare`
characters more is at most `spare` edits away from it. -/
def startsAlmostWith (text head : String) (spare : Int) : Bool :=
  let cs := lowerChars text.toList
  let hs := lowerChars head.toList
  hs.isPrefixOf cs ||
    decide ((editDistanceChars (leading ((hs.length : Int) + spare) cs) hs : Int) ≤ spare)

end Restyle.Matching
