import Restyle.Proofs.Color.Notations
import Restyle.Proofs.Numeric.Whole

/-!
# Colours within the range of the format

A text fits the format when no row of digits in it denotes more than the largest number of the
format.  The colour of such a text has components within the range, and whatever is written of
it again fits the format.

* `FitsFormat` — texts without a number that is too large.
* `inRange_of_read` — the colour of a text that fits.
* `fitsFormat_normalize` — the stored form of a text that fits.
* `read?_wholeText` — whole numbers are read back.
* `text_of_inRange` — the text of a colour within the range.
* `Hsl.Bounded.text_error` — why a colour has no text.
-/

set_option autoImplicit false

namespace Restyle.Color

open Restyle.Numeric Restyle.Text

/-! ## Texts -/

/-- No row of digits denotes more than the largest number of the format. -/
def FitsFormat (v : String) : Prop := RowsWithin largestWhole v.toList

/-- A text is too short for a number that is too large. -/
theorem fitsFormat_of_length {v : String} (h : v.length ≤ 308) : FitsFormat v := by
  apply rowsWithin_of_length
  rw [String.length_toList]
  exact tenTo_le_largestWhole h

theorem FitsFormat.trim {v : String} (h : FitsFormat v) : FitsFormat (trim v) := by
  rw [FitsFormat, Text.trim, String.toList_ofList]
  exact h.trimChars

theorem FitsFormat.lower {v : String} (h : FitsFormat v) : FitsFormat (lower v) := by
  rw [FitsFormat, Text.lower, String.toList_ofList]
  exact h.lowerChars

/-! ## Components -/

theorem Component.whole_isInfix (c : Component) : c.whole <:+: c.chars := by
  unfold chars
  split
  · exact List.infix_rfl
  · exact (List.prefix_append _ _).isInfix

/-- The value of a component that stands in a text. -/
theorem Component.Written.inRange_value {c : Component} {cs : List Char} (hc : c.Written)
    (h : RowsWithin largestWhole cs) (hi : c.chars <:+: cs) : c.value.InRange :=
  inRange_plainDecimal (h c.whole (c.whole_isInfix.trans hi) hc.whole) c.fraction

/-- All components within the range of the format. -/
structure Hsl.InRange (c : Hsl) : Prop where
  hue : c.hue.InRange
  saturation : c.saturation.InRange
  lightness : c.lightness.InRange

theorem Hsl.InRange.notNegative {c : Hsl} (hc : c.InRange) : c.NotNegative :=
  ⟨hc.hue.notNegative, hc.saturation.notNegative, hc.lightness.notNegative⟩

/-- **The colour of a text that fits the format.** -/
theorem inRange_of_read {v : String} (h : FitsFormat v) {c : Hsl} (hc : Hsl.read? v = some c) :
    c.InRange := by
  obtain ⟨⟨hue, sat, light⟩, ht, rfl⟩ := Option.map_eq_some_iff.1 hc
  have hrows : RowsWithin largestWhole (trimChars v.toList) := h.trimChars
  obtain ⟨wh, ws, wl, b, b', he⟩ := triple?_sound ht
  have ih : hue.chars <:+: trimChars v.toList := he ▸ (List.prefix_append _ _).isInfix
  have is : sat.chars <:+: trimChars v.toList :=
    ⟨hue.chars ++ b, '%' :: (b' ++ (light.chars ++ ['%'])), by simp [he]⟩
  have il : light.chars <:+: trimChars v.toList :=
    ⟨hue.chars ++ (b ++ (sat.chars ++ '%' :: b')), ['%'], by simp [he]⟩
  exact ⟨wh.inRange_value hrows ih, ws.inRange_value hrows is, wl.inRange_value hrows il⟩

/-! ## What is written -/

theorem fitsFormat_triple {h s l : Component} (hh : RowsWithin largestWhole h.chars)
    (hs : RowsWithin largestWhole s.chars) (hl : RowsWithin largestWhole l.chars) :
    FitsFormat s!"{h.text} {s.text}% {l.text}%" := by
  have hlast := hl.append_cons isDigit_percent rowsWithin_nil
  have hmiddle := hs.append_cons isDigit_percent (hlast.cons isDigit_space)
  rw [FitsFormat, toList_triple]
  exact hh.append_cons isDigit_space hmiddle

theorem Component.rowsWithin_ofNat {n : Nat} (h : n ≤ largestWhole) :
    RowsWithin largestWhole (ofNat n).chars := by
  apply rowsWithin_of_value
  rw [ofNat, chars, if_pos (by rfl), Nat.toList_repr, digitsValue_toDigits]
  exact h

/-- Whole numbers that are not too large. -/
theorem fitsFormat_wholeText {h s l : Nat} (hh : h ≤ largestWhole) (hs : s ≤ largestWhole)
    (hl : l ≤ largestWhole) : FitsFormat (Hsl.wholeText h s l) := by
  have ht := fitsFormat_triple (Component.rowsWithin_ofNat hh) (Component.rowsWithin_ofNat hs)
    (Component.rowsWithin_ofNat hl)
  rwa [Component.text_ofNat, Component.text_ofNat, Component.text_ofNat] at ht

theorem Component.value_ofNat {n : Nat} (h : n < 2 ^ 53) : (ofNat n).value = .finite n := by
  rw [ofNat, value, plainDecimal, List.append_nil, Nat.toList_repr, digitsValue_toDigits]
  exact scaledByTen_natCast h

/-- Whole numbers without a sign are read back. -/
theorem read?_wholeText (h s l : Nat) : Hsl.read? (Hsl.wholeText h s l) =
    some ⟨(Component.ofNat h).value, (Component.ofNat s).value, (Component.ofNat l).value⟩ := by
  have ht := read?_triple (Component.written_ofNat h) (Component.written_ofNat s)
    (Component.written_ofNat l)
  rwa [Component.text_ofNat, Component.text_ofNat, Component.text_ofNat] at ht

/-- The text of a colour that has no negative component, if there is one. -/
theorem fitsFormat_of_text {c : Hsl} (hc : c.NotNegative) {v : String} (h : c.text = .ok v) :
    FitsFormat v := by
  obtain ⟨hue, sat, light, hh, hs, hl, rfl⟩ := hc.text_ok h
  exact fitsFormat_wholeText (Int.ofNat_le.1 (Binary64.roundHalfUp_le hc.hue hh))
    (Int.ofNat_le.1 (Binary64.roundHalfUp_le hc.saturation hs))
    (Int.ofNat_le.1 (Binary64.roundHalfUp_le hc.lightness hl))

/-- **The text of a colour within the range.** -/
theorem text_of_inRange {c : Hsl} (hc : c.InRange) : ∃ v, c.text = .ok v ∧ FitsFormat v := by
  obtain ⟨h, eh⟩ := Binary64.roundHalfUp_of_inRange hc.hue
  obtain ⟨s, es⟩ := Binary64.roundHalfUp_of_inRange hc.saturation
  obtain ⟨l, el⟩ := Binary64.roundHalfUp_of_inRange hc.lightness
  have htext : c.text = .ok (Hsl.wholeText h s l) := by
    unfold Hsl.text
    rw [eh, es, el]
    rfl
  exact ⟨_, htext, fitsFormat_of_text hc.notNegative htext⟩

/-- All components within the range if they are finite. -/
structure Hsl.Bounded (c : Hsl) : Prop where
  hue : c.hue.Bounded
  saturation : c.saturation.Bounded
  lightness : c.lightness.Bounded

/-- The colour of any text. -/
theorem Hsl.bounded_of_read {s : String} {c : Hsl} (h : Hsl.read? s = some c) : c.Bounded := by
  obtain ⟨⟨h, s, l⟩, -, rfl⟩ := Option.map_eq_some_iff.1 h
  exact ⟨bounded_plainDecimal _ _, bounded_plainDecimal _ _, bounded_plainDecimal _ _⟩

/-- The components of a colour. -/
def Hsl.components (c : Hsl) : List Binary64 := [c.hue, c.saturation, c.lightness]

/-- **A colour has no text** when one of its components is not finite. -/
theorem Hsl.Bounded.text_error {c : Hsl} (hc : c.Bounded) {e : RoundingError}
    (h : c.text = .error e) : ∃ x ∈ c.components, ¬x.IsFinite ∧ x.roundHalfUp = .error e := by
  unfold Hsl.text at h
  cases hh : c.hue.roundHalfUp with
  | error e' =>
    rw [hh] at h
    cases h
    exact ⟨c.hue, by simp [components], hc.hue.not_isFinite hh, hh⟩
  | ok hue =>
    cases hs : c.saturation.roundHalfUp with
    | error e' =>
      rw [hh, hs] at h
      cases h
      exact ⟨c.saturation, by simp [components], hc.saturation.not_isFinite hs, hs⟩
    | ok sat =>
      cases hl : c.lightness.roundHalfUp with
      | error e' =>
        rw [hh, hs, hl] at h
        cases h
        exact ⟨c.lightness, by simp [components], hc.lightness.not_isFinite hl, hl⟩
      | ok light =>
        rw [hh, hs, hl] at h
        cases h

end Restyle.Color
