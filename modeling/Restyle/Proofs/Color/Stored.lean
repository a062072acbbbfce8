import Restyle.Proofs.Color.Conversion
import Restyle.Proofs.Color.Triple

/-!
# Stored colours

A text is a stored colour when it is a triple without white space at its ends.  It is its own
stored form, and what is made of numbers is one: the text of a colour without a negative
component, and whatever red, green and blue are converted to.

* `IsStored.normalize_eq` — a stored colour stays as it is.
* `isStored_trim_iff` — a text is read as a colour exactly when it is one once trimmed.
* `isStored_of_text` — the text of a colour that has no negative component is a stored colour.
* `isStored_ofRgb` — so is what red, green and blue are converted to.
-/

set_option autoImplicit false

namespace Restyle.Color

open Restyle.Numeric Restyle.Text

/-- A triple without white space at its ends. -/
def IsStored (v : String) : Prop := (triple? v.toList).isSome = true

instance (v : String) : Decidable (IsStored v) :=
  inferInstanceAs (Decidable ((triple? v.toList).isSome = true))

theorem isStored_trim {s : String} :
    IsStored (trim s) ↔ (triple? (trimChars s.toList)).isSome = true := by
  rw [IsStored, trim, String.toList_ofList]

theorem IsStored.trim_eq {v : String} (h : IsStored v) : trim v = v := by
  rw [trim, (trimmed_of_triple? h).trimChars_eq, String.ofList_toList]

/-- A text is read as a colour exactly when it is one once trimmed. -/
theorem isStored_trim_iff (s : String) : IsStored (trim s) ↔ (Hsl.read? s).isSome = true := by
  rw [isStored_trim, Hsl.read?, Option.isSome_map]

theorem IsStored.read {v : String} (h : IsStored v) : (Hsl.read? v).isSome = true := by
  rw [← isStored_trim_iff, h.trim_eq]
  exact h

theorem normalize_eq_trim {s : String} (h : IsStored (trim s)) : normalize s = trim s := by
  have ht := isStored_trim.1 h
  unfold normalize
  dsimp only
  rw [if_pos ht, trim]

/-- A stored colour stays as it is. -/
theorem IsStored.normalize_eq {v : String} (h : IsStored v) : normalize v = v := by
  have ht := h.trim_eq
  rw [normalize_eq_trim (by rwa [ht]), ht]

/-- The stored form of a text that is read as a colour. -/
theorem isStored_normalize_of_read {s : String} (h : (Hsl.read? s).isSome = true) :
    IsStored (normalize s) := by
  have hs := (isStored_trim_iff s).2 h
  rwa [normalize_eq_trim hs]

/-! ## Texts of colours -/

theorem toList_triple (h s l : Component) :
    (s!"{h.text} {s.text}% {l.text}%").toList = tripleChars h s l := by
  simp [toString, Component.text, tripleChars]

theorem isStored_triple {h s l : Component} (hh : h.Written) (hs : s.Written) (hl : l.Written) :
    IsStored s!"{h.text} {s.text}% {l.text}%" := by
  rw [IsStored, toList_triple, triple?_tripleChars hh hs hl]
  rfl

/-- A written triple is read component by component. -/
theorem read?_triple {h s l : Component} (hh : h.Written) (hs : s.Written) (hl : l.Written) :
    Hsl.read? s!"{h.text} {s.text}% {l.text}%" = some ⟨h.value, s.value, l.value⟩ := by
  have ht := triple?_tripleChars hh hs hl
  have hsome : (triple? (tripleChars h s l)).isSome = true := by
    rw [ht]
    rfl
  have htrim := (trimmed_of_triple? hsome).trimChars_eq
  rw [Hsl.read?, toList_triple, htrim, ht]
  rfl

/-- A whole number as a component. -/
def Component.ofNat (n : Nat) : Component := ⟨n.repr.toList, []⟩

theorem Component.text_ofNat (n : Nat) : (Component.ofNat n).text = n.repr := by
  simp [ofNat, text, chars, Nat.repr_eq_ofList_toDigits]

theorem isDigit_of_ascii {c : Char} (h : c.isDigit = true) : isDigit c = true := by
  simp only [Char.isDigit, Bool.and_eq_true, decide_eq_true_eq] at h
  have h1 : 0x30 ≤ c.toNat := h.1
  have h2 : c.toNat ≤ 0x39 := h.2
  simp [isDigit, digitValue?, h1, h2, show c.toNat < 0x80 by omega]

theorem Component.written_ofNat (n : Nat) : (Component.ofNat n).Written where
  whole_ne_nil := by simp [ofNat]
  whole := by
    intro d hd
    rw [ofNat, Nat.toList_repr] at hd
    exact isDigit_of_ascii (Nat.isDigit_of_mem_toDigits (by decide) (by decide) hd)
  fraction := by simp [ofNat]

/-- Whole numbers without a sign. -/
theorem isStored_wholeText {h s l : Int} (hh : 0 ≤ h) (hs : 0 ≤ s) (hl : 0 ≤ l) :
    IsStored (Hsl.wholeText h s l) := by
  obtain ⟨h, rfl⟩ := Int.eq_ofNat_of_zero_le hh
  obtain ⟨s, rfl⟩ := Int.eq_ofNat_of_zero_le hs
  obtain ⟨l, rfl⟩ := Int.eq_ofNat_of_zero_le hl
  have ht := isStored_triple (Component.written_ofNat h) (Component.written_ofNat s)
    (Component.written_ofNat l)
  rwa [Component.text_ofNat, Component.text_ofNat, Component.text_ofNat] at ht

/-- No component below zero. -/
structure Hsl.NotNegative (c : Hsl) : Prop where
  hue : c.hue.NotNegative
  saturation : c.saturation.NotNegative
  lightness : c.lightness.NotNegative

theorem Hsl.notNegative_of_read {s : String} {c : Hsl} (h : Hsl.read? s = some c) :
    c.NotNegative := by
  obtain ⟨⟨h, s, l⟩, -, rfl⟩ := Option.map_eq_some_iff.1 h
  exact ⟨notNegative_plainDecimal _ _, notNegative_plainDecimal _ _, notNegative_plainDecimal _ _⟩

/-- The text of a colour has the whole numbers next to its components. -/
theorem Hsl.text_ok {c : Hsl} {v : String} (h : c.text = .ok v) :
    ∃ hue sat light, c.hue.roundHalfUp = .ok hue ∧ c.saturation.roundHalfUp = .ok sat ∧
      c.lightness.roundHalfUp = .ok light ∧ v = Hsl.wholeText hue sat light := by
  unfold Hsl.text at h
  cases hh : c.hue.roundHalfUp with
  | error e => rw [hh] at h; cases h
  | ok hue =>
    cases hs : c.saturation.roundHalfUp with
    | error e => rw [hh, hs] at h; cases h
    | ok sat =>
      cases hl : c.lightness.roundHalfUp with
      | error e => rw [hh, hs, hl] at h; cases h
      | ok light =>
        rw [hh, hs, hl] at h
        cases h
        exact ⟨hue, sat, light, rfl, rfl, rfl, rfl⟩

/-- They have no sign when no component is negative. -/
theorem Hsl.NotNegative.text_ok {c : Hsl} (hc : c.NotNegative) {v : String} (h : c.text = .ok v) :
    ∃ hue sat light : Nat, c.hue.roundHalfUp = .ok hue ∧ c.saturation.roundHalfUp = .ok sat ∧
      c.lightness.roundHalfUp = .ok light ∧ v = Hsl.wholeText hue sat light := by
  obtain ⟨hue, sat, light, hh, hs, hl, rfl⟩ := Hsl.text_ok h
  obtain ⟨hue, rfl⟩ := Int.eq_ofNat_of_zero_le (Binary64.roundHalfUp_nonneg hc.hue hh)
  obtain ⟨sat, rfl⟩ := Int.eq_ofNat_of_zero_le (Binary64.roundHalfUp_nonneg hc.saturation hs)
  obtain ⟨light, rfl⟩ := Int.eq_ofNat_of_zero_le (Binary64.roundHalfUp_nonneg hc.lightness hl)
  exact ⟨hue, sat, light, hh, hs, hl, rfl⟩

/-- The text of a colour that has no negative component. -/
theorem isStored_of_text {c : Hsl} (hc : c.NotNegative) {v : String} (h : c.text = .ok v) :
    IsStored v := by
  obtain ⟨hue, sat, light, -, -, -, rfl⟩ := hc.text_ok h
  exact isStored_wholeText (Int.natCast_nonneg hue) (Int.natCast_nonneg sat)
    (Int.natCast_nonneg light)

/-- Whatever red, green and blue are converted to. -/
theorem isStored_ofRgb (r g b : Nat) : IsStored (ofRgb r g b) := by
  obtain ⟨h, s, l, he, -⟩ := ofRgb_eq r g b
  rw [he]
  exact isStored_wholeText (Int.natCast_nonneg h) (Int.natCast_nonneg s) (Int.natCast_nonneg l)

end Restyle.Color
