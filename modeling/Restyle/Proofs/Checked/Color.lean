import Restyle.Proofs.Checked.Miss
import Restyle.Proofs.Color.Stored

/-!
# Converting colours without a miss

The conversion from red, green and blue divides by the range of the three, by their sum, and by
what is left of two.  All of this happens only for colours that are not grey, and of these the
brightest and the darkest share differ by too much to be rounded away.

* `divisors_ne_zero` — what a colour that is not grey divides by.
* `ofRgb_ok`, `normalize_ok` — the conversion, and the stored form of any text.
-/

set_option autoImplicit false

namespace Restyle.Checked

open Restyle.Color Restyle.Numeric Restyle.Text

/-! ## Divisors -/

/-- What a colour that is not grey divides by. -/
theorem divisors_ne_zero {m n : Nat} (hmn : m ≤ n) (h : share m ≠ share n) :
    nearest (share n - share m) ≠ 0 ∧ nearest (share n + share m) ≠ 0 ∧
      nearest (2 - nearest (share n + share m)) ≠ 0 := by
  have hgap := share_gap hmn h
  have hm := share_nonneg m
  have hleast : 0 < nearest (1 / 300) := by decide +kernel
  have hrange : nearest (1 / 300) ≤ nearest (share n - share m) := nearest_mono (by linarith)
  have hsum : nearest (share n - share m) ≤ nearest (share n + share m) :=
    nearest_mono (by linarith)
  have hroom := room_above (share_of_ne hmn h) (share_le_one n)
  refine ⟨?_, ?_, ?_⟩
  · linarith
  · linarith
  · linarith

/-! ## Conversion -/

/-- The hue, as a share of a full turn, of a colour that is not grey. -/
def hueShare (r g b high range : Rat) : Check Rat := do
  let rc ← quotient (nearest (high - r)) range
  let gc ← quotient (nearest (high - g)) range
  let bc ← quotient (nearest (high - b)) range
  let sixths :=
    if r = high then nearest (nearest bc - nearest gc)
    else if g = high then nearest (nearest (2 + nearest rc) - nearest bc)
    else nearest (nearest (4 + nearest gc) - nearest rc)
  let h := nearest (sixths / 6)
  return if h < 0 then nearest (h + 1) else h

theorem hueShare_ok (r g b high : Rat) {range : Rat} (h : range ≠ 0) :
    hueShare r g b high range = .ok (Color.hueShare r g b high range) := by
  simp only [hueShare, quotient_ok h, ok_bind]
  rfl

/-- The stored text of a colour given by red, green and blue. -/
def ofRgb (r g b : Nat) : Check String :=
  let high := share (max (max r g) b)
  let low := share (min (min r g) b)
  let sum := nearest (high + low)
  let range := nearest (high - low)
  let light := nearest (sum / 2)
  if low = high then .ok (Hsl.wholeText 0 0 (roundedProduct light 100))
  else do
    let saturation ←
      if light ≤ 1 / 2 then quotient range sum else quotient range (nearest (2 - sum))
    let hue ← hueShare (share r) (share g) (share b) high range
    return Hsl.wholeText (roundedProduct hue 360) (roundedProduct (nearest saturation) 100)
      (roundedProduct light 100)

/-- **Every colour is converted without a division by zero.** -/
theorem ofRgb_ok (r g b : Nat) : ofRgb r g b = .ok (Color.ofRgb r g b) := by
  have hdivisors := divisors_ne_zero (show min (min r g) b ≤ max (max r g) b by omega)
  unfold ofRgb Color.ofRgb
  dsimp only
  generalize share (max (max r g) b) = high at *
  generalize share (min (min r g) b) = low at *
  split
  · rfl
  · rename_i hne
    obtain ⟨hrange, hsum, hroom⟩ := hdivisors hne
    rw [hueShare_ok _ _ _ _ hrange]
    split
    · rw [quotient_ok hsum]
      rfl
    · rw [quotient_ok hroom]
      rfl

/-- The stored form of a text. -/
def normalize (s : String) : Check String :=
  let cs := trimChars s.toList
  if (triple? cs).isSome then .ok (String.ofList cs)
  else match searchFor hslFunctionAt? cs with
    | some ((h, s, l), _) => .ok s!"{h.text} {s.text}% {l.text}%"
    | none => match hex? cs with
      | some (r, g, b) => ofRgb r g b
      | none => match searchFor rgbAt? cs with
        | some ((r, g, b), _) => ofRgb r g b
        | none => .ok (String.ofList cs)

/-- **Every text has its stored form without a division by zero.** -/
theorem normalize_ok (s : String) : normalize s = .ok (Color.normalize s) := by
  unfold normalize Color.normalize
  dsimp only
  split
  · rfl
  · cases searchFor hslFunctionAt? (trimChars s.toList) with
    | some found => rfl
    | none =>
      cases hex? (trimChars s.toList) with
      | some rgb => exact ofRgb_ok _ _ _
      | none =>
        cases searchFor rgbAt? (trimChars s.toList) with
        | some found => exact ofRgb_ok _ _ _
        | none => rfl

end Restyle.Checked
