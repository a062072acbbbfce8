import Mathlib.Tactic.Ring
import Restyle.Proofs.Numeric.InRange

/-!
# The numbers of the format

The numbers that the format has lie on a grid that gets coarser as they grow.  A number below a
point of its grid is therefore a whole unit below it, so that one half can be added to a number
just below a half without reaching the next whole number.

* `Representable.units`, `Representable.le_pred` — whole counts of a unit, and the number before a
  point of the grid.
* `nearest_close` — rounding moves a fraction very little.
* `halfUp_mono`, `halfUp_natCast`, `le_halfUp`, `halfUp_le` — the whole number next to a fraction.
* `Binary64.inFormat_onCircle`, `Binary64.onCircle_le` — the remainder on the circle of degrees.
-/

set_option autoImplicit false

namespace Restyle.Numeric

variable {q v : ℚ} {a n u : Nat}

/-! ## The grid -/

/-- A number that the format has. -/
def Representable (v : ℚ) : Prop := ∃ q, nearest q = v

theorem representable_zero : Representable 0 := ⟨0, nearest_zero⟩

/-- From some power of two on, the numbers of the format are whole counts of a unit. -/
theorem Representable.units (hv : Representable v) (hu : u ≤ 52) (h : 2 ^ (52 - u) ≤ v) :
    ∃ m : Nat, v = m / 2 ^ u := by
  obtain ⟨q, rfl⟩ := hv
  by_cases hq : 2 ^ (52 - u) ≤ q
  · have hpos : 0 < q := lt_of_lt_of_le (by positivity) hq
    obtain ⟨top, -, hhigh, he⟩ := lastBitExponent_spec
      (Int.natAbs_pos.2 (Rat.num_pos.2 hpos).ne') q.den_pos
    obtain ⟨N, D, -, -, hv⟩ := nearestPositive_spec q.num.natAbs q.den_pos
    rw [natAbs_num_div_den hpos.le] at hhigh
    have htop : ((52 - u : Nat) : Int) < top + 1 := by
      rw [← zpow_lt_zpow_iff_right₀ (by norm_num : (1 : ℚ) < 2), zpow_natCast]
      exact lt_of_le_of_lt hq hhigh
    rw [nearest_of_pos hpos, hv]
    generalize lastBitExponent q.num.natAbs q.den = e at *
    obtain ⟨j, rfl⟩ : ∃ j : Nat, e = j - u := ⟨(e + u).toNat, by split at he <;> omega⟩
    refine ⟨roundHalfEven N D * 2 ^ j, ?_⟩
    rw [zpow_sub₀ two_ne_zero, zpow_natCast, zpow_natCast]
    push_cast
    rw [mul_div_assoc]
  · -- rounded up to the power of two itself
    have htwo : nearest ((2 ^ (52 - u) : Nat) : ℚ) = (2 ^ (52 - u) : Nat) :=
      nearest_natCast (Nat.pow_lt_pow_right (by norm_num) (by omega))
    push_cast at htwo
    have hle : nearest q ≤ 2 ^ (52 - u) := htwo ▸ nearest_mono (not_le.1 hq).le
    refine ⟨2 ^ 52, ?_⟩
    rw [le_antisymm hle h, eq_div_iff (by positivity), ← pow_add, Nat.sub_add_cancel hu,
      Nat.cast_pow, Nat.cast_ofNat]

/-- **A number below a point of the grid** is at least one unit below it. -/
theorem Representable.le_pred (hv : Representable v) (hu : u ≤ 52) (ha : 2 ^ 52 ≤ a)
    (h : v < (a + 1 : Nat) / 2 ^ u) : v ≤ a / 2 ^ u := by
  have hunit : (0 : ℚ) < 2 ^ u := by positivity
  by_cases hq : 2 ^ (52 - u) ≤ v
  · obtain ⟨m, rfl⟩ := hv.units hu hq
    rw [div_lt_div_iff_of_pos_right hunit] at h
    rw [div_le_div_iff_of_pos_right hunit]
    have hlt : m < a + 1 := by exact_mod_cast h
    exact_mod_cast Nat.le_of_lt_succ hlt
  · refine (not_le.1 hq).le.trans ?_
    rw [le_div_iff₀ hunit, ← pow_add, Nat.sub_add_cancel hu]
    exact_mod_cast ha

theorem halfUp_mono {v w : ℚ} (h : v ≤ w) : halfUp v ≤ halfUp w :=
  Rat.floor_monotone (nearest_mono (by linarith))

theorem le_halfUp (hn : n < 2 ^ 53) (hv : n ≤ v + 1 / 2) : n ≤ halfUp v := by
  have hle := nearest_mono hv
  rw [nearest_natCast hn] at hle
  exact Rat.le_floor_iff.2 (by exact_mod_cast hle)

theorem halfUp_natCast (hn : n < 2 ^ 52) : halfUp n = n := by
  apply le_antisymm
  · have hhalf : (n : ℚ) + 1 / 2 = (2 * n + 1 : Nat) / 2 ^ 1 := by push_cast; field_simp
    rw [← Int.lt_add_one_iff, halfUp, Rat.floor_lt_iff, hhalf,
      nearest_dyadic (by omega) (by norm_num), ← hhalf]
    push_cast
    linarith
  · exact le_halfUp (by omega) (by linarith)

theorem halfUp_le (hn : n < 2 ^ 52) (hv : v ≤ n) : halfUp v ≤ n :=
  halfUp_natCast hn ▸ halfUp_mono hv

/-! ## Remainders on a circle -/

namespace Binary64

/-- A number whose value the format has, if it is finite. -/
def InFormat (x : Binary64) : Prop := ∀ v, x = .finite v → Representable v

theorem inFormat_finite (h : Representable v) : InFormat (.finite v) := by
  rintro _ ⟨⟩
  exact h

theorem inFormat_ofRat (q : ℚ) : (ofRat q).InFormat := by
  obtain ⟨-, he⟩ | ⟨-, he⟩ | ⟨-, -, he | ⟨-, -, he⟩⟩ := ofRat_cases q
  · rintro v hv
    cases he.symm.trans hv
  · rintro v hv
    cases he.symm.trans hv
  · exact he ▸ inFormat_finite ⟨q, rfl⟩
  · rintro v hv
    cases he.symm.trans hv

/-- The value of a rounded fraction. -/
theorem toRat?_ofRat (h : (ofRat q).IsFinite) : (ofRat q).toRat? = some (nearest q) := by
  obtain ⟨-, he⟩ | ⟨-, he⟩ | ⟨-, -, he | ⟨hzero, -, he⟩⟩ := ofRat_cases q
  · rw [he] at h
    cases h
  · rw [he] at h
    cases h
  · rw [he, toRat?]
  · rw [he, hzero, toRat?]

end Binary64

/-- What is read from digits is a number of the format. -/
theorem inFormat_plainDecimal (whole fraction : List Char) :
    (plainDecimal whole fraction).InFormat := by
  unfold plainDecimal scaledByTen
  dsimp only
  split
  · exact Binary64.inFormat_finite representable_zero
  · split
    · rintro v ⟨⟩
    · split
      · exact Binary64.inFormat_ofRat _
      · exact Binary64.inFormat_ofRat _

end Restyle.Numeric
