import Restyle.Proofs.Change.Outcome

/-!
# Steps of whole-number colours

A colour text of whole numbers is read, changed and written again without any rounding.  So a step
changes just the component that it names, and the opposite step takes it back, unless the first
one was stopped at an end of the range.

* `StepsTo`, `StepsTo.of_read`, `StepsTo.text` — a step from one colour text to another.
* `percent_of_toRat?` — a component brought into its range.
* `stepsTo_lightness`, `stepsTo_saturation`, `stepsTo_hue`, `stepsTo_contrast` — where a step of
  whole numbers leads.
* `opposite_steps_cancel` — a step and the opposite one.
-/

set_option autoImplicit false

namespace Restyle.Change

open Restyle.Color Restyle.Command Restyle.Numeric

/-! ## Steps -/

/-- One step of a property takes a colour text to another one. -/
def StepsTo (current : String) (direction : Direction) (property value : String) : Prop :=
  adjustColor current direction property = .ok (.ok { newValue := value, property })

/-- A step and the opposite one take a colour text to another one. -/
def StepsBack (current : String) (direction : Direction) (property value : String) : Prop :=
  ∃ between, StepsTo current direction property between ∧
    StepsTo between direction.inverted property value

instance (current : String) (direction : Direction) (property value : String) :
    Decidable (StepsTo current direction property value) :=
  inferInstanceAs (Decidable (adjustColor current direction property = _))

theorem ofName?_name (p : ColorProperty) : ColorProperty.ofName? p.name = some p := by
  cases p <;> decide

/-- A step of a colour that is read leads to the whole numbers next to its new components. -/
theorem StepsTo.of_read {current : String} {c : Hsl} {d : Direction} {p : ColorProperty}
    {h s l : Int} (hread : Hsl.read? current = some c)
    (hh : (adjust c d p).hue.roundHalfUp = .ok h)
    (hs : (adjust c d p).saturation.roundHalfUp = .ok s)
    (hl : (adjust c d p).lightness.roundHalfUp = .ok l) :
    StepsTo current d p.name (Hsl.wholeText h s l) := by
  have htext : (adjust c d p).text = .ok (Hsl.wholeText h s l) := by
    rw [Hsl.text, hh, hs, hl]
    rfl
  simp only [StepsTo, adjustColor, adjustColorBy, hread, ofName?_name, htext]

/-- There is no other way to make a step. -/
theorem StepsTo.text {current value : String} {c : Hsl} {d : Direction} {p : ColorProperty}
    (h : StepsTo current d p.name value) (hread : Hsl.read? current = some c) :
    (adjust c d p).text = .ok value := by
  simp only [StepsTo, adjustColor, adjustColorBy, hread, ofName?_name] at h
  split at h
  · cases h
  · rename_i v hv
    cases h
    exact hv

/-! ## Percentages -/

/-- A value brought into the range from 0 to 100. -/
def limited (v : ℚ) : ℚ := if 0 < v then if v < 100 then v else 100 else 0

theorem percent_of_toRat? {x : Binary64} {v : ℚ} (h : x.toRat? = some v) :
    percent x = .finite (limited v) := by
  have hlt : ∀ w : ℚ, x.lt (.finite w) = decide (v < w) ∧
      (Binary64.finite w).lt x = decide (w < v) := by
    intro w
    cases x <;> cases h <;> exact ⟨rfl, rfl⟩
  unfold percent Binary64.clamp limited
  dsimp only
  rw [(hlt 100).1]
  by_cases hhigh : v < 100
  · simp only [hhigh, decide_true, if_true, (hlt 0).2, decide_eq_true_eq]
    split
    · rename_i hlow
      cases x <;> cases h
      · rfl
      · exact absurd hlow (lt_irrefl 0)
    · rfl
  · simp only [hhigh, decide_false, Bool.false_eq_true, if_false]
    rw [if_pos (by decide), if_pos (by linarith)]

/-- A whole number brought into the range from 0 to 100. -/
def limitedWhole (z : Int) : Int := if 0 < z then if z < 100 then z else 100 else 0

theorem limited_intCast (z : Int) : limited z = limitedWhole z := by
  have h0 : (0 : ℚ) < z ↔ 0 < z := Int.cast_pos
  have h1 : (z : ℚ) < 100 ↔ z < 100 := by exact_mod_cast Iff.rfl
  unfold limited limitedWhole
  simp only [h0, h1]
  split
  · split <;> rfl
  · rfl

/-! ## Whole numbers -/

variable {h s l : Int}

/-- A colour of whole numbers that are not too large. -/
structure IsWhole (h s l : Int) : Prop where
  hue : 0 ≤ h ∧ h < 2 ^ 52
  saturation : 0 ≤ s ∧ s < 2 ^ 52
  lightness : 0 ≤ l ∧ l < 2 ^ 52

/-- Its text is read back. -/
theorem IsWhole.read (hw : IsWhole h s l) :
    Hsl.read? (Hsl.wholeText h s l) = some ⟨.finite h, .finite s, .finite l⟩ := by
  obtain ⟨⟨hh, hh'⟩, ⟨hs, hs'⟩, ⟨hl, hl'⟩⟩ := hw
  obtain ⟨h, rfl⟩ := Int.eq_ofNat_of_zero_le hh
  obtain ⟨s, rfl⟩ := Int.eq_ofNat_of_zero_le hs
  obtain ⟨l, rfl⟩ := Int.eq_ofNat_of_zero_le hl
  rw [read?_wholeText, Component.value_ofNat (by omega), Component.value_ofNat (by omega),
    Component.value_ofNat (by omega)]
  rfl

/-- A step between colours of whole numbers. -/
theorem StepsTo.of_isWhole {h' s' l' : Int} {d : Direction} {p : ColorProperty}
    (hw : IsWhole h s l) (hw' : IsWhole h' s' l')
    (hadjust : adjust ⟨.finite h, .finite s, .finite l⟩ d p = ⟨.finite h', .finite s', .finite l'⟩) :
    StepsTo (Hsl.wholeText h s l) d p.name (Hsl.wholeText h' s' l') := by
  apply StepsTo.of_read hw.read <;> rw [hadjust]
  · exact Binary64.roundHalfUp_intCast hw'.hue.1 hw'.hue.2
  · exact Binary64.roundHalfUp_intCast hw'.saturation.1 hw'.saturation.2
  · exact Binary64.roundHalfUp_intCast hw'.lightness.1 hw'.lightness.2

/-- A whole lightness or saturation after one step. -/
def lifted (d : Direction) (size z : Int) : Int := limitedWhole (z + d.sign * size)

/-- A whole hue after one step. -/
def turned (d : Direction) (z : Int) : Int := (z + d.sign * 30) % 360

theorem lifted_bounds (d : Direction) (size z : Int) :
    0 ≤ lifted d size z ∧ lifted d size z < 2 ^ 52 := by
  unfold lifted limitedWhole
  split
  · split <;> omega
  · omega

theorem turned_bounds (d : Direction) (z : Int) : 0 ≤ turned d z ∧ turned d z < 2 ^ 52 := by
  unfold turned
  omega

theorem percent_add_step {z : Int} (hz : 0 ≤ z ∧ z < 2 ^ 52) (size : Int)
    (hs : 0 ≤ size ∧ size ≤ 360) (d : Direction) :
    percent ((Binary64.finite z).add (step d size)) = .finite (lifted d size z) := by
  have hsign : d.sign * size = size ∨ d.sign * size = -size := by
    cases d
    · exact .inl (one_mul size)
    · exact .inr (neg_one_mul size)
  rw [step, ← Int.cast_mul, Binary64.add_intCast (by omega) (by omega), lifted, ← limited_intCast]
  exact percent_of_toRat? rfl

theorem stepsTo_lightness (hw : IsWhole h s l) (d : Direction) :
    StepsTo (Hsl.wholeText h s l) d "lightness" (Hsl.wholeText h s (lifted d 10 l)) := by
  have hstep := percent_add_step hw.lightness 10 (by norm_num) d
  refine StepsTo.of_isWhole (p := .lightness) hw ⟨hw.hue, hw.saturation, lifted_bounds d 10 l⟩ ?_
  rw [adjust, ← hstep]
  rfl

theorem stepsTo_saturation (hw : IsWhole h s l) (d : Direction) :
    StepsTo (Hsl.wholeText h s l) d "saturation" (Hsl.wholeText h (lifted d 10 s) l) := by
  have hstep := percent_add_step hw.saturation 10 (by norm_num) d
  refine StepsTo.of_isWhole (p := .saturation) hw ⟨hw.hue, lifted_bounds d 10 s, hw.lightness⟩ ?_
  rw [adjust, ← hstep]
  rfl

theorem stepsTo_hue (hw : IsWhole h s l) (d : Direction) :
    StepsTo (Hsl.wholeText h s l) d "hue" (Hsl.wholeText (turned d h) s l) := by
  have hsign : d.sign = 1 ∨ d.sign = -1 := by cases d <;> decide
  have hh := hw.hue
  have hturn : ((Binary64.finite h).add (step d 30)).onCircle 360 = .finite (turned d h) := by
    rw [step, show (d.sign : ℚ) * 30 = (d.sign * 30 : Int) by push_cast; rfl,
      Binary64.add_intCast (by omega) (by omega), Binary64.onCircle_intCast, turned]
  refine StepsTo.of_isWhole (p := .hue) hw ⟨turned_bounds d h, hw.saturation, hw.lightness⟩ ?_
  rw [adjust, ← hturn]

/-- A lightness above the middle goes the way of the step, and any other one goes the other way. -/
theorem stepsTo_contrast (hw : IsWhole h s l) (d : Direction) :
    StepsTo (Hsl.wholeText h s l) d "contrast"
      (Hsl.wholeText h (lifted d 15 s) (lifted (if 50 < l then d else d.inverted) 5 l)) := by
  have hsat := percent_add_step hw.saturation 15 (by norm_num) d
  have hlight := percent_add_step hw.lightness 5 (by norm_num)
    (if 50 < l then d else d.inverted)
  refine StepsTo.of_isWhole (p := .contrast) hw
    ⟨hw.hue, lifted_bounds d 15 s, lifted_bounds _ 5 l⟩ ?_
  have hmiddle : (Binary64.finite 50).lt (.finite l) = decide (50 < l) :=
    decide_eq_decide.2 (show (50 : ℚ) < l ↔ 50 < l by exact_mod_cast Iff.rfl)
  rw [adjust, ← hsat, ← hlight, hmiddle]
  by_cases hl : 50 < l
  · simp only [hl, decide_true, if_true]
    rfl
  · simp only [hl, decide_false, if_false, Bool.false_eq_true]
    rfl

/-! ## Opposite steps -/

theorem limitedWhole_eq {z : Int} (h0 : 0 ≤ z) (h : z ≤ 100) : limitedWhole z = z := by
  unfold limitedWhole
  split
  · split <;> omega
  · omega

/-- A step that stays within the range is taken back. -/
theorem lifted_inverted {d : Direction} {size z : Int} (h0 : 0 ≤ z) (h : z ≤ 100)
    (hstep : 0 ≤ z + d.sign * size ∧ z + d.sign * size ≤ 100) :
    lifted d.inverted size (lifted d size z) = z := by
  have hback : z + d.sign * size + d.inverted.sign * size = z := by
    cases d <;> simp only [Direction.sign, Direction.inverted] <;> omega
  rw [lifted, lifted, limitedWhole_eq hstep.1 hstep.2, hback, limitedWhole_eq h0 h]

theorem turned_inverted (d : Direction) (z : Int) : turned d.inverted (turned d z) = z % 360 := by
  cases d <;> simp only [turned, Direction.sign, Direction.inverted] <;> omega

theorem stepsBack_lightness (hw : IsWhole h s l) {d : Direction} (hl : l ≤ 100)
    (hstep : 0 ≤ l + d.sign * 10 ∧ l + d.sign * 10 ≤ 100) :
    StepsBack (Hsl.wholeText h s l) d "lightness" (Hsl.wholeText h s l) := by
  have hback := stepsTo_lightness ⟨hw.hue, hw.saturation, lifted_bounds d 10 l⟩ d.inverted
  rw [lifted_inverted hw.lightness.1 hl hstep] at hback
  exact ⟨_, stepsTo_lightness hw d, hback⟩

theorem stepsBack_saturation (hw : IsWhole h s l) {d : Direction} (hs : s ≤ 100)
    (hstep : 0 ≤ s + d.sign * 10 ∧ s + d.sign * 10 ≤ 100) :
    StepsBack (Hsl.wholeText h s l) d "saturation" (Hsl.wholeText h s l) := by
  have hback := stepsTo_saturation ⟨hw.hue, lifted_bounds d 10 s, hw.lightness⟩ d.inverted
  rw [lifted_inverted hw.saturation.1 hs hstep] at hback
  exact ⟨_, stepsTo_saturation hw d, hback⟩

theorem stepsBack_hue (hw : IsWhole h s l) (d : Direction) :
    StepsBack (Hsl.wholeText h s l) d "hue" (Hsl.wholeText (h % 360) s l) := by
  have hback := stepsTo_hue ⟨turned_bounds d h, hw.saturation, hw.lightness⟩ d.inverted
  rw [turned_inverted] at hback
  exact ⟨_, stepsTo_hue hw d, hback⟩

/-- **Opposite steps cancel** on colours of whole numbers: a step changes just the component that it
names, contrast leaves the hue as it is, and the opposite step leads back, to the same place on the
circle for a hue, and for the others unless the first step was stopped at an end of the range. -/
theorem opposite_steps_cancel {h s l : Nat} (hh : h < 2 ^ 52) (hs : s < 2 ^ 52) (hl : l < 2 ^ 52)
    {c : String} (hc : c = Hsl.wholeText h s l) :
    (∀ d, (∃ h' : Nat, StepsTo c d "hue" (Hsl.wholeText h' s l)) ∧
      (∃ s' : Nat, StepsTo c d "saturation" (Hsl.wholeText h s' l)) ∧
      (∃ l' : Nat, StepsTo c d "lightness" (Hsl.wholeText h s l')) ∧
      ∃ s' l' : Nat, StepsTo c d "contrast" (Hsl.wholeText h s' l')) ∧
    ((l ≤ 90 → StepsBack c .more "lightness" c) ∧
      (s ≤ 90 → StepsBack c .more "saturation" c) ∧
      StepsBack c .more "hue" (Hsl.wholeText (h % 360 : Nat) s l)) ∧
    ((10 ≤ l → l ≤ 100 → StepsBack c .less "lightness" c) ∧
      (10 ≤ s → s ≤ 100 → StepsBack c .less "saturation" c) ∧
      StepsBack c .less "hue" (Hsl.wholeText (h % 360 : Nat) s l)) := by
  subst hc
  have hw : IsWhole h s l := ⟨by omega, by omega, by omega⟩
  refine ⟨fun d => ?_, ⟨fun h90 => ?_, fun h90 => ?_, stepsBack_hue hw .more⟩,
    fun h10 h100 => ?_, fun h10 h100 => ?_, stepsBack_hue hw .less⟩
  · have hnat : ∀ {z : Int}, 0 ≤ z ∧ z < 2 ^ 52 → ∃ n : Nat, z = n := fun hz =>
      Int.eq_ofNat_of_zero_le hz.1
    obtain ⟨h', hh'⟩ := hnat (turned_bounds d h)
    obtain ⟨s', hs'⟩ := hnat (lifted_bounds d 10 s)
    obtain ⟨l', hl'⟩ := hnat (lifted_bounds d 10 l)
    obtain ⟨s'', hs''⟩ := hnat (lifted_bounds d 15 s)
    obtain ⟨l'', hl''⟩ := hnat (lifted_bounds (if 50 < (l : Int) then d else d.inverted) 5 l)
    exact ⟨⟨h', hh' ▸ stepsTo_hue hw d⟩, ⟨s', hs' ▸ stepsTo_saturation hw d⟩,
      ⟨l', hl' ▸ stepsTo_lightness hw d⟩, s'', l'', hs'' ▸ hl'' ▸ stepsTo_contrast hw d⟩
  · exact stepsBack_lightness hw (by omega) (by simp only [Direction.sign]; omega)
  · exact stepsBack_saturation hw (by omega) (by simp only [Direction.sign]; omega)
  · exact stepsBack_lightness hw (by omega) (by simp only [Direction.sign]; omega)
  · exact stepsBack_saturation hw (by omega) (by simp only [Direction.sign]; omega)

/-- The largest hue that is covered, and both ends of the ranges of the others. -/
theorem opposite_steps_cancel_far :
    let c := "4503599627370495 90% 10%"
    (4503599627370495 < 2 ^ 52 ∧ 90 < 2 ^ 52 ∧ 10 < 2 ^ 52) ∧
      c = Hsl.wholeText 4503599627370495 90 10 ∧
      (∃ h' : Nat, StepsTo c .more "hue" (Hsl.wholeText h' 90 10)) ∧
      StepsBack c .more "lightness" c ∧ StepsBack c .less "lightness" c ∧
      StepsBack c .more "saturation" c ∧ StepsBack c .less "saturation" c ∧
      StepsBack c .more "hue" "15 90% 10%" ∧ StepsBack c .less "hue" "15 90% 10%" := by
  intro c
  have hc : c = Hsl.wholeText 4503599627370495 90 10 := by decide +kernel
  obtain ⟨hsteps, ⟨hl, hs, hh⟩, hl', hs', hh'⟩ :=
    opposite_steps_cancel (h := 4503599627370495) (s := 90) (l := 10) (by norm_num) (by norm_num)
      (by norm_num) hc
  exact ⟨by norm_num, hc, (hsteps .more).1, hl (by norm_num), hl' (by norm_num) (by norm_num),
    hs (by norm_num), hs' (by norm_num) (by norm_num), hh, hh'⟩

end Restyle.Change
