import Restyle.Proofs.Change.Steps

/-!
# Contrast and the middle of the lightness

More contrast takes a lightness away from the middle and less contrast takes it the other way, by
a fixed step, which is rounded and stopped at the ends of the range.  Less contrast does not stop
at the middle: close to it the step leads past it, and farther away on the other side.

* `moved`, `le_moved_up`, `moved_down_le` — a step of the lightness, which goes the way it should.
* `moved_down_lt_iff`, `lt_moved_up_iff` — which steps lead past the middle and too far.
* `StepsTo.lightness?_contrast` — the lightness that a step of contrast leads to.
* `contrast_moves_lightness` — where the distance from the middle grows and where it shrinks.
-/

set_option autoImplicit false

namespace Restyle.Change

open Restyle.Color Restyle.Command Restyle.Numeric

variable {l : ℚ}

/-- The lightness that a colour text is read with, if it is finite. -/
def lightness? (text : String) : Option ℚ := (Hsl.read? text).bind fun c => c.lightness.toRat?

theorem lightness?_wholeText (h s : Nat) {n : Nat} (hn : n < 2 ^ 53) :
    lightness? (Hsl.wholeText h s n) = some ((n : Int) : ℚ) := by
  simp only [lightness?, read?_wholeText, Option.bind_some, Component.value_ofNat hn]
  rfl

/-- The distance of a lightness from the middle. -/
def fromMiddle (l : ℚ) : ℚ := if 50 < l then l - 50 else 50 - l

theorem fromMiddle_of_lt (h : 50 < l) : fromMiddle l = l - 50 := if_pos h

theorem fromMiddle_of_le (h : l ≤ 50) : fromMiddle l = 50 - l := if_neg (not_lt.2 h)

/-! ## Steps of the lightness -/

theorem limited_mono {v w : ℚ} (h : v ≤ w) : limited v ≤ limited w := by
  unfold limited
  by_cases hv : 0 < v
  · rw [if_pos hv, if_pos (hv.trans_le h)]
    split <;> split <;> linarith
  · rw [if_neg hv]
    split
    · split <;> linarith
    · exact le_refl 0

theorem limited_bounds (v : ℚ) : 0 ≤ limited v ∧ limited v ≤ 100 := by
  unfold limited
  split
  · split
    · constructor <;> linarith
    · norm_num
  · norm_num

/-- The whole lightness after a step of the given length. -/
def moved (l : ℚ) (length : Int) : Int := halfUp (limited (nearest (l + length)))

theorem moved_mono {l' : ℚ} (h : l ≤ l') (length : Int) : moved l length ≤ moved l' length :=
  halfUp_mono (limited_mono (nearest_mono (by linarith)))

theorem moved_bounds (l : ℚ) (length : Int) : 0 ≤ moved l length ∧ moved l length ≤ 100 := by
  obtain ⟨h0, h1⟩ := limited_bounds (nearest (l + length))
  exact ⟨le_halfUp (n := 0) (by norm_num) (by push_cast; linarith),
    halfUp_le (n := 100) (by norm_num) (by exact_mod_cast h1)⟩

/-- Steps from whole numbers. -/
theorem moved_natCast : ∀ n : Nat, n ≤ 100 →
    (n + 1 ≤ moved n 5 ∨ n = 100 ∧ moved n 5 = 100) ∧ moved (n + 1 : Nat) (-5) ≤ n := by
  decide +kernel

/-- The whole number below a lightness. -/
theorem exists_whole (h0 : 0 ≤ l) (h : l ≤ 100) : ∃ n : Nat, n ≤ 100 ∧ (n : ℚ) ≤ l ∧
    l < (n + 1 : Nat) := by
  obtain ⟨n, -, hlow, hhigh⟩ := exists_floor_eq h0
  exact ⟨n, by exact_mod_cast hlow.trans h, hlow, by push_cast; exact hhigh⟩

/-- A step up leads up. -/
theorem le_moved_up (h0 : 0 ≤ l) (h : l ≤ 100) : l ≤ moved l 5 := by
  obtain ⟨n, hn, hlow, hhigh⟩ := exists_whole h0 h
  have hstep := moved_mono hlow 5
  rcases (moved_natCast n hn).1 with hle | ⟨-, he⟩
  · have hsucc : ((n + 1 : Nat) : ℚ) ≤ moved l 5 := by exact_mod_cast hle.trans hstep
    linarith
  · have hend : ((100 : Nat) : ℚ) ≤ moved l 5 := by exact_mod_cast he ▸ hstep
    push_cast at hend
    linarith

/-- A step down leads down. -/
theorem moved_down_le (h0 : 0 ≤ l) (h : l ≤ 100) : moved l (-5) ≤ l := by
  obtain ⟨n, hn, hlow, hhigh⟩ := exists_whole h0 h
  have hstep := (moved_mono hhigh.le (-5)).trans (moved_natCast n hn).2
  exact le_trans (by exact_mod_cast hstep) hlow

/-! ## Steps past the middle -/

/-- A step down leads too far past the middle when it begins close above it. -/
theorem moved_down_lt_iff (hl : Representable l) : moved l (-5) < 48 ↔ l < 105 / 2 := by
  constructor
  · intro h
    by_contra hle
    have hstep := moved_mono (not_lt.1 hle) (-5)
    have hmiddle : moved (105 / 2) (-5) = 48 := by decide +kernel
    omega
  · intro h
    -- the number of the format before the limit still leads too far
    have hpred := hl.le_pred (u := 47) (a := 105 * 2 ^ 46 - 1) (by norm_num) (by norm_num)
      (h.trans_eq (by norm_num))
    have hstep := moved_mono hpred (-5)
    have hmiddle : moved ((105 * 2 ^ 46 - 1 : Nat) / 2 ^ 47) (-5) = 47 := by decide +kernel
    omega

/-- A step up leads too far past the middle when it begins close below it. -/
theorem lt_moved_up_iff (hl : Representable l) : 52 < moved l 5 ↔ 95 / 2 ≤ l := by
  constructor
  · intro h
    by_contra hlt
    have hpred := hl.le_pred (u := 47) (a := 95 * 2 ^ 46 - 1) (by norm_num) (by norm_num)
      ((not_le.1 hlt).trans_eq (by norm_num))
    have hstep := moved_mono hpred 5
    have hmiddle : moved ((95 * 2 ^ 46 - 1 : Nat) / 2 ^ 47) 5 = 52 := by decide +kernel
    omega
  · intro h
    have hstep := moved_mono h 5
    have hmiddle : moved (95 / 2) 5 = 53 := by decide +kernel
    omega

/-- A step outward does not lead nearer to the middle. -/
theorem fromMiddle_le_outward (h0 : 0 ≤ l) (h : l ≤ 100) :
    fromMiddle l ≤ fromMiddle (moved l (if 50 < l then 5 else -5)) := by
  by_cases hmiddle : 50 < l
  · have hup := le_moved_up h0 h
    rw [if_pos hmiddle, fromMiddle_of_lt hmiddle, fromMiddle_of_lt (hmiddle.trans_le hup)]
    linarith
  · have hdown := moved_down_le h0 h
    rw [if_neg hmiddle, fromMiddle_of_le (not_lt.1 hmiddle),
      fromMiddle_of_le (hdown.trans (not_lt.1 hmiddle))]
    linarith

/-- A step inward leads farther from the middle only when it begins so close to it that most of the
step is on the other side. -/
theorem fromMiddle_inward_le_iff (hl : Representable l) (h0 : 0 ≤ l) (h : l ≤ 100) :
    fromMiddle (moved l (if 50 < l then -5 else 5)) ≤ fromMiddle l ↔ l < 95 / 2 ∨ 105 / 2 ≤ l := by
  by_cases hmiddle : 50 < l
  · have hle := moved_down_le h0 h
    have hfar := moved_down_lt_iff hl
    rw [if_pos hmiddle, fromMiddle_of_lt hmiddle]
    generalize moved l (-5) = m at *
    by_cases hclose : l < 105 / 2
    · have hm : (m : ℚ) ≤ (47 : Int) := by exact_mod_cast Int.le_of_lt_add_one (hfar.2 hclose)
      push_cast at hm
      rw [fromMiddle_of_le (by linarith)]
      exact iff_of_false (by linarith) (by rintro (hlow | hhigh) <;> linarith)
    · have hm : ((48 : Int) : ℚ) ≤ m := by exact_mod_cast not_lt.1 (mt hfar.1 hclose)
      push_cast at hm
      refine iff_of_true ?_ (.inr (not_lt.1 hclose))
      unfold fromMiddle
      split <;> linarith
  · have hle := le_moved_up h0 h
    have hfar := lt_moved_up_iff hl
    rw [if_neg hmiddle, fromMiddle_of_le (not_lt.1 hmiddle)]
    generalize moved l 5 = m at *
    by_cases hclose : 95 / 2 ≤ l
    · have hm : ((53 : Int) : ℚ) ≤ m := by exact_mod_cast hfar.2 hclose
      push_cast at hm
      rw [fromMiddle_of_lt (by linarith)]
      exact iff_of_false (by linarith) (by rintro (hlow | hhigh) <;> linarith)
    · have hm : (m : ℚ) ≤ (52 : Int) := by exact_mod_cast not_lt.1 (mt hfar.1 hclose)
      push_cast at hm
      refine iff_of_true ?_ (.inl (not_le.1 hclose))
      unfold fromMiddle
      split <;> linarith

/-! ## Steps of contrast -/

variable {current value : String} {c : Hsl}

/-- How far, and which way, a step of contrast moves a lightness. -/
def contrastLength (d : Direction) (l : ℚ) : Int := (if 50 < l then d else d.inverted).sign * 5

theorem contrastLength_bounds (d : Direction) (l : ℚ) :
    -360 ≤ (contrastLength d l : ℚ) ∧ (contrastLength d l : ℚ) ≤ 360 := by
  unfold contrastLength
  generalize (if 50 < l then d else d.inverted) = side
  cases side <;> norm_num [Direction.sign]

/-- The lightness after a step of contrast, before it is rounded. -/
theorem adjust_contrast (hl : c.lightness = .finite l) (h0 : 0 ≤ l) (h : l ≤ 100) (d : Direction) :
    (adjust c d .contrast).lightness = .finite (limited (nearest (l + contrastLength d l))) := by
  have hlt : (Binary64.finite 50).lt (.finite l) = decide (50 < l) := rfl
  have hside : (if (Binary64.finite 50).lt c.lightness then step d 5 else step d.inverted 5) =
      .finite (contrastLength d l) := by
    rw [hl, hlt, contrastLength]
    push_cast
    by_cases hmiddle : 50 < l
    · rw [if_pos (decide_eq_true hmiddle), if_pos hmiddle]
      rfl
    · rw [if_neg (by simpa using hmiddle), if_neg hmiddle]
      rfl
  obtain ⟨hlow, hhigh⟩ := contrastLength_bounds d l
  have hsum := Binary64.toRat?_ofRat
    (Binary64.isFinite_add (Binary64.inRange_finite h0 (by linarith)) hlow hhigh)
  rw [adjust, hside, hl]
  exact percent_of_toRat? hsum

/-- The whole number next to it. -/
theorem roundHalfUp_contrast (hl : c.lightness = .finite l) (h0 : 0 ≤ l) (h : l ≤ 100)
    (d : Direction) : (adjust c d .contrast).lightness.roundHalfUp =
      .ok (moved l (contrastLength d l)) := by
  obtain ⟨hlow, hhigh⟩ := limited_bounds (nearest (l + contrastLength d l))
  rw [adjust_contrast hl h0 h, moved]
  exact Binary64.roundHalfUp_finite (Binary64.inRange_finite hlow (by linarith))

/-- A finite hue is all that a step of contrast needs. -/
theorem exists_contrast (hread : Hsl.read? current = some c) (hhue : c.hue.IsFinite)
    (hl : c.lightness = .finite l) (h0 : 0 ≤ l) (h : l ≤ 100) (d : Direction) :
    ∃ value, StepsTo current d "contrast" value := by
  obtain ⟨hue, hh⟩ := Binary64.roundHalfUp_of_inRange ((Hsl.bounded_of_read hread).hue hhue)
  obtain ⟨sat, hs⟩ := Binary64.roundHalfUp_of_inRange
    (inRange_percent (c.saturation.add (step d 15)))
  exact ⟨_, StepsTo.of_read (p := .contrast) hread hh hs (roundHalfUp_contrast hl h0 h d)⟩

/-- The lightness that is read from what a step of contrast leads to. -/
theorem StepsTo.lightness?_contrast {d : Direction} (hstep : StepsTo current d "contrast" value)
    (hread : Hsl.read? current = some c) (hl : c.lightness = .finite l) (h0 : 0 ≤ l)
    (h : l ≤ 100) : lightness? value = some (moved l (contrastLength d l)) := by
  have hnot := notNegative_adjust (Hsl.notNegative_of_read hread) d .contrast
  obtain ⟨hue, sat, light, -, -, hlight, rfl⟩ :=
    hnot.text_ok (StepsTo.text (p := .contrast) hstep hread)
  have hmoved := Except.ok.inj ((roundHalfUp_contrast hl h0 h d).symm.trans hlight)
  obtain ⟨-, hhigh⟩ := moved_bounds l (contrastLength d l)
  rw [hmoved] at hhigh ⊢
  exact lightness?_wholeText hue sat (by omega)

/-- **Contrast moves a lightness away from the middle or towards it**: for every colour with a
lightness in its range, which has a step of contrast if its hue is finite, more contrast does not
bring the lightness nearer to the middle.  Less contrast does not take it farther away, unless it
begins so close to the middle that the step leads past it and too far. -/
theorem contrast_moves_lightness (hread : Hsl.read? current = some c)
    (hl : c.lightness = .finite l) (h : l ≤ 100) :
    (c.hue.IsFinite → ∀ d, ∃ value, StepsTo current d "contrast" value) ∧
    (∀ value, StepsTo current .more "contrast" value →
      ∃ l', lightness? value = some l' ∧ fromMiddle l ≤ fromMiddle l') ∧
    ∀ value, StepsTo current .less "contrast" value →
      ∃ l', lightness? value = some l' ∧
        (fromMiddle l' ≤ fromMiddle l ↔ l < 95 / 2 ∨ 105 / 2 ≤ l) := by
  have h0 : 0 ≤ l := (Hsl.notNegative_of_read hread).lightness l hl
  have hformat : Representable l := by
    obtain ⟨⟨hue, sat, light⟩, -, rfl⟩ := Option.map_eq_some_iff.1 hread
    exact inFormat_plainDecimal light.whole light.fraction l hl
  have hmore : contrastLength .more l = if 50 < l then 5 else -5 := by
    unfold contrastLength
    split <;> rfl
  have hless : contrastLength .less l = if 50 < l then -5 else 5 := by
    unfold contrastLength
    split <;> rfl
  refine ⟨fun hhue => exists_contrast hread hhue hl h0 h, fun value hstep => ?_,
    fun value hstep => ?_⟩
  · exact ⟨_, hstep.lightness?_contrast hread hl h0 h, hmore ▸ fromMiddle_le_outward h0 h⟩
  · exact ⟨_, hstep.lightness?_contrast hread hl h0 h,
      hless ▸ fromMiddle_inward_le_iff hformat h0 h⟩

/-- Both ways from a lightness near the middle, and not too near. -/
theorem contrast_moves_lightness_fortySeven :
    Hsl.read? "217 50% 47%" = some ⟨.finite 217, .finite 50, .finite 47⟩ ∧
      (∃ value, StepsTo "217 50% 47%" .less "contrast" value ∧
        ∃ l', lightness? value = some l' ∧ fromMiddle l' ≤ fromMiddle 47) ∧
      ∃ value, StepsTo "217 50% 47%" .more "contrast" value ∧
        ∃ l', lightness? value = some l' ∧ fromMiddle 47 ≤ fromMiddle l' := by
  have hread : Hsl.read? "217 50% 47%" = some ⟨.finite 217, .finite 50, .finite 47⟩ := by
    decide +kernel
  obtain ⟨hsteps, hmore, hless⟩ := contrast_moves_lightness hread rfl (by norm_num)
  obtain ⟨v, hv⟩ := hsteps rfl .less
  obtain ⟨w, hw⟩ := hsteps rfl .more
  obtain ⟨l', hl', hle⟩ := hless v hv
  exact ⟨hread, ⟨v, hv, l', hl', hle.2 (.inl (by norm_num))⟩, w, hw, hmore w hw⟩

/-- Less contrast takes a lightness in the middle away from it. -/
theorem less_contrast_leaves_middle :
    StepsTo "217 50% 50%" .less "contrast" "217 35% 55%" ∧
      lightness? "217 50% 50%" = some 50 ∧ lightness? "217 35% 55%" = some 55 ∧
      ¬fromMiddle 55 ≤ fromMiddle 50 := by
  decide +kernel

end Restyle.Change
