import Restyle.Proofs.Numeric.NotNegative
import Restyle.Proofs.Text.Rows

/-!
# Numbers within the range of the format

A component of a colour is read from digits of any length, and only a finite number has a
nearest whole number.  What is read is finite as long as its whole part is not above the largest
number of the format; a step of a colour and the rounding itself add too little to leave the
range.

* `largestWhole` — the largest number of the format.
* `inRange_plainDecimal` — a decimal is within the range when its whole part is.
* `bounded_plainDecimal` — and whenever it is finite.
* `roundHalfUp_le`, `roundHalfUp_finite` — the whole number next to a number.
* `plainDecimal_of_large` — what is read from too many digits.
* `exists_ofInt_eq_infinite_iff` — the whole numbers that are too large.
-/

set_option autoImplicit false

namespace Restyle.Numeric

open Restyle.Text

/-! ## The range -/

/-- The largest number of the format. -/
@[irreducible] def largestWhole : Nat := twoTo 1024 - twoTo 971

theorem twoTo_sub_lt (a b : Nat) : twoTo a - twoTo b < twoTo a :=
  Nat.sub_lt (twoTo_pos a) (twoTo_pos b)

theorem largestWhole_lt_overflowBound : (largestWhole : ℚ) < overflowBound := by
  unfold largestWhole overflowBound
  exact Nat.cast_lt.2 (twoTo_sub_lt 1024 971)

/-- The largest number has 309 digits. -/
theorem largestWhole_bounds : tenTo 308 ≤ largestWhole ∧ largestWhole + 1 ≤ tenTo 309 := by
  decide +kernel

theorem tenTo_le_largestWhole {k : Nat} (h : k ≤ 308) : tenTo k ≤ largestWhole :=
  (tenTo_mono h).trans largestWhole_bounds.1

/-- Numbers a little above the largest one are rounded down to it. -/
theorem nearest_above_largest : nearest ((largestWhole + 360 : Nat) : ℚ) = largestWhole := by
  decide +kernel

theorem nearest_le_largest {q : ℚ} (h : q ≤ largestWhole + 360) : nearest q ≤ largestWhole := by
  rw [← nearest_above_largest]
  apply nearest_mono
  exact_mod_cast h

theorem twoTo_cast_add (j k : Nat) : (twoTo (j + k) : ℚ) = twoTo j * 2 ^ (k : Int) := by
  rw [twoTo_cast, twoTo_cast, ← zpow_add₀ (by norm_num), Nat.cast_add]

theorem largestWhole_cast : (largestWhole : ℚ) = (twoTo 53 - 1) * 2 ^ (971 : Int) := by
  have h : largestWhole = (twoTo 53 - 1) * twoTo 971 := by decide +kernel
  rw [h, Nat.cast_mul, twoTo_cast 971, Nat.cast_sub (twoTo_pos 53), Nat.cast_one]
  rfl

/-- Numbers of a fine grid do not come near the bound. -/
theorem fine_le_largest {units : Nat} {e : Int} (hunits : units ≤ twoTo 53) (he : e ≤ 970) :
    (units : ℚ) * 2 ^ e ≤ largestWhole := by
  have hmax : (units : ℚ) ≤ twoTo 53 := by exact_mod_cast hunits
  have htwo : (2 : ℚ) ≤ twoTo 53 := by exact_mod_cast (by decide : 2 ≤ twoTo 53)
  calc (units : ℚ) * 2 ^ e ≤ twoTo 53 * 2 ^ (970 : Int) :=
        mul_le_mul hmax (zpow_le_zpow_right₀ (by norm_num) he) (by positivity) (Nat.cast_nonneg _)
    _ ≤ (twoTo 53 - 1) * 2 * 2 ^ (970 : Int) :=
        mul_le_mul_of_nonneg_right (by linarith) (by positivity)
    _ = largestWhole := by
        rw [largestWhole_cast, mul_assoc, ← zpow_one_add₀ (by norm_num)]
        rfl

/-- The bound is on every coarse grid, and the largest number is one coarse unit below it. -/
theorem coarse_le_largest {units k : Nat}
    (h : (units : ℚ) * 2 ^ ((k : Int) + 971) < overflowBound) :
    (units : ℚ) * 2 ^ ((k : Int) + 971) ≤ largestWhole := by
  have hsplit : (units : ℚ) * 2 ^ ((k : Int) + 971) =
      ((units * 2 ^ k : Nat) : ℚ) * 2 ^ (971 : Int) := by
    rw [zpow_add₀ (by norm_num), zpow_natCast, Nat.cast_mul, Nat.cast_pow, mul_assoc]
    rfl
  have hunit : (0 : ℚ) < 2 ^ (971 : Int) := by positivity
  rw [hsplit, overflowBound, show 1024 = 53 + 971 by rfl, twoTo_cast_add] at h
  have hlt : units * 2 ^ k < twoTo 53 := by exact_mod_cast lt_of_mul_lt_mul_right h hunit.le
  have hle : ((units * 2 ^ k : Nat) : ℚ) ≤ twoTo 53 - 1 := by
    have : ((units * 2 ^ k : Nat) : ℚ) + 1 ≤ twoTo 53 := by exact_mod_cast hlt
    linarith
  rw [hsplit, largestWhole_cast]
  exact mul_le_mul_of_nonneg_right hle hunit.le

/-- **What does not overflow is not above the largest number.** -/
theorem nearest_le_largest_of_lt {q : ℚ} (h0 : 0 ≤ q) (h : nearest q < overflowBound) :
    nearest q ≤ largestWhole := by
  rcases eq_or_lt_of_le h0 with rfl | hpos
  · rw [nearest_zero]
    exact Nat.cast_nonneg _
  have hn : 0 < q.num.natAbs := Int.natAbs_pos.2 (Rat.num_pos.2 hpos).ne'
  obtain ⟨N, D, hD, hx, hv⟩ := nearestPositive_spec q.num.natAbs q.den_pos
  have hmax := roundHalfEven_le_twoTo hn q.den_pos hD hx
  rw [nearest_of_pos hpos, hv] at h ⊢
  generalize lastBitExponent q.num.natAbs q.den = e at *
  generalize roundHalfEven N D = units at *
  by_cases he : e ≤ 970
  · exact fine_le_largest hmax he
  · obtain ⟨k, rfl⟩ : ∃ k : Nat, e = k + 971 := ⟨(e - 971).toNat, by omega⟩
    exact coarse_le_largest h

/-- The whole number next to a fraction: one half is added with rounding, and what is behind the
point is cut off. -/
def halfUp (v : ℚ) : Int := (nearest (v + 1 / 2)).floor

namespace Binary64

/-- A finite number that is not negative and not above the largest of the format. -/
def InRange : Binary64 → Prop
  | .finite v => 0 ≤ v ∧ v ≤ (largestWhole : ℚ)
  | _ => False

instance (x : Binary64) : Decidable x.InRange :=
  match x with
  | .finite v => inferInstanceAs (Decidable (0 ≤ v ∧ v ≤ (largestWhole : ℚ)))
  | .negativeZero => inferInstanceAs (Decidable False)
  | .infinite _ => inferInstanceAs (Decidable False)
  | .indefinite => inferInstanceAs (Decidable False)

theorem InRange.eq_finite {x : Binary64} (hx : x.InRange) :
    ∃ v, x = .finite v ∧ 0 ≤ v ∧ v ≤ (largestWhole : ℚ) := by
  cases x with
  | finite v => exact ⟨v, rfl, hx⟩
  | negativeZero => exact hx.elim
  | infinite negative => exact hx.elim
  | indefinite => exact hx.elim

theorem InRange.notNegative {x : Binary64} (hx : x.InRange) : x.NotNegative := by
  rintro v rfl
  exact hx.1

theorem inRange_finite {v : ℚ} (h0 : 0 ≤ v) (h : v ≤ 360) : (finite v).InRange := by
  have hle : ((360 : Nat) : ℚ) ≤ largestWhole := by
    have hten : 360 ≤ tenTo 3 := by decide
    exact_mod_cast hten.trans (tenTo_le_largestWhole (by decide))
  push_cast at hle
  exact ⟨h0, h.trans hle⟩

/-! ## Operations -/

/-- Either finite or the negative zero. -/
def IsFinite (x : Binary64) : Prop := x.toRat?.isSome = true

/-- What is at most a turn outside the range is rounded to a finite number. -/
theorem isFinite_ofRat {q : ℚ} (hl : -360 ≤ q) (hh : q ≤ largestWhole + 360) :
    (ofRat q).IsFinite := by
  have hhigh := nearest_le_largest hh
  have hlow : nearest (-q) ≤ largestWhole := nearest_le_largest (by
    have : (0 : ℚ) ≤ largestWhole := Nat.cast_nonneg _
    linarith)
  rw [nearest_neg] at hlow
  have hbound := largestWhole_lt_overflowBound
  obtain ⟨hover, -⟩ | ⟨hover, -⟩ | ⟨-, -, he | ⟨-, -, he⟩⟩ := ofRat_cases q
  · linarith
  · linarith
  · rw [he]
    rfl
  · rw [he]
    rfl

/-- Within the range if finite at all. -/
def Bounded (x : Binary64) : Prop := x.IsFinite → x.InRange

theorem bounded_infinite (negative : Bool) : (infinite negative).Bounded :=
  fun h => absurd h Bool.false_ne_true

theorem bounded_indefinite : indefinite.Bounded := fun h => absurd h Bool.false_ne_true

/-- A rounded fraction is within the range, unless it overflows. -/
theorem bounded_ofRat {q : ℚ} (h0 : 0 ≤ q) : (ofRat q).Bounded := by
  obtain ⟨-, he⟩ | ⟨-, he⟩ | ⟨-, hlt, he | ⟨-, hneg, -⟩⟩ := ofRat_cases q
  · exact he ▸ bounded_infinite false
  · exact he ▸ bounded_infinite true
  · exact he ▸ fun _ => ⟨nearest_nonneg h0, nearest_le_largest_of_lt h0 hlt⟩
  · exact absurd hneg (not_lt.2 h0)

/-- A fraction is rounded, unless it overflows or becomes a negative zero. -/
theorem ofRat_eq_finite {q : ℚ} (h0 : 0 ≤ q) (h : q ≤ largestWhole + 360) :
    ofRat q = .finite (nearest q) := by
  have hlow := nearest_nonneg h0
  have hhigh := nearest_le_largest h
  have hbound := largestWhole_lt_overflowBound
  obtain ⟨hover, -⟩ | ⟨hover, -⟩ | ⟨-, -, he | ⟨-, hneg, -⟩⟩ := ofRat_cases q
  · linarith
  · linarith [overflowBound_pos]
  · exact he
  · exact absurd hneg (not_lt.2 h0)

theorem inRange_ofRat {q : ℚ} (h0 : 0 ≤ q) (h : q ≤ largestWhole + 360) : (ofRat q).InRange :=
  bounded_ofRat h0 (isFinite_ofRat (by linarith) h)

/-- A number within the range and a step of at most a turn have a finite sum. -/
theorem isFinite_add {x : Binary64} (hx : x.InRange) {d : ℚ} (hl : -360 ≤ d) (hh : d ≤ 360) :
    (x.add (.finite d)).IsFinite := by
  obtain ⟨v, rfl, h0, h1⟩ := hx.eq_finite
  exact isFinite_ofRat (by linarith) (by linarith)

/-- A number brought into a range from zero to at most a turn, whatever it is. -/
theorem inRange_clamp {high : ℚ} (h0 : 0 ≤ high) (h : high ≤ 360) (x : Binary64) :
    (clamp (.finite 0) (.finite high) x).InRange := by
  have hzero : (finite 0).InRange := inRange_finite (le_refl 0) (by norm_num)
  unfold clamp
  dsimp only
  split
  · rename_i hx
    split
    · rename_i hlt
      cases x with
      | finite v =>
        have hv : 0 < v := of_decide_eq_true hlt
        have hv' : v < high := of_decide_eq_true hx
        exact inRange_finite hv.le (by linarith)
      | negativeZero => simp [lt, toRat?] at hlt
      | infinite negative =>
        cases negative with
        | true => simp [lt] at hlt
        | false => simp [lt] at hx
      | indefinite => simp [lt] at hx
    · exact hzero
  · split
    · exact inRange_finite h0 h
    · exact hzero

/-- A place on a circle of at most a turn. -/
theorem inRange_onCircle {turn : ℚ} (h0 : 0 < turn) (h : turn ≤ 360) {x : Binary64}
    (hx : x.IsFinite) : (x.onCircle turn).InRange := by
  cases x with
  | finite v =>
    obtain ⟨n, ⟨hlow, hhigh, he⟩ | ⟨-, he⟩ | ⟨-, hlow, hhigh, he⟩⟩ := onCircle_cases h0 v
    · exact he ▸ inRange_finite hlow (by linarith)
    · exact he ▸ inRange_finite (le_refl 0) (by norm_num)
    · have : (0 : ℚ) ≤ largestWhole := Nat.cast_nonneg _
      exact he ▸ inRange_ofRat (by linarith) (by linarith)
  | negativeZero => exact inRange_finite (le_refl 0) (by norm_num)
  | infinite negative => cases hx
  | indefinite => cases hx

/-- **The whole number next to a number that is not negative** is not above the largest number. -/
theorem roundHalfUp_le {x : Binary64} (hx : x.NotNegative) {n : Int}
    (h : x.roundHalfUp = .ok n) : n ≤ largestWhole := by
  have hsum : (x.add (.finite (1 / 2))).Bounded := by
    cases x with
    | finite v =>
      have hv := hx v rfl
      exact bounded_ofRat (by linarith)
    | negativeZero => exact fun _ => inRange_finite (by norm_num) (by norm_num)
    | infinite negative => exact bounded_infinite negative
    | indefinite => exact bounded_indefinite
  unfold roundHalfUp at h
  split at h
  · rename_i w hw
    cases h
    rw [hw] at hsum
    obtain ⟨-, hw1⟩ := hsum rfl
    have hle : (w.floor : ℚ) ≤ ((largestWhole : Int) : ℚ) := by
      have := Rat.floor_le w
      push_cast
      linarith
    exact_mod_cast hle
  · cases h
    exact Int.natCast_nonneg _
  · cases h
  · cases h

/-- A number within the range has the whole number next to its value next to it. -/
theorem roundHalfUp_finite {v : ℚ} (hv : (finite v).InRange) :
    (finite v).roundHalfUp = .ok (halfUp v) := by
  obtain ⟨h0, h1⟩ := hv
  have hsum : ofRat (v + 1 / 2) = .finite (nearest (v + 1 / 2)) :=
    ofRat_eq_finite (by linarith) (by linarith)
  unfold roundHalfUp
  rw [add, hsum]
  rfl

/-- A number within the range has a whole number next to it. -/
theorem roundHalfUp_of_inRange {x : Binary64} (hx : x.InRange) :
    ∃ n, x.roundHalfUp = .ok n := by
  obtain ⟨v, rfl, -⟩ := hx.eq_finite
  exact ⟨_, roundHalfUp_finite hx⟩

/-- Only a number that is not finite has no whole number next to it. -/
theorem Bounded.not_isFinite {x : Binary64} (hx : x.Bounded) {e : RoundingError}
    (h : x.roundHalfUp = .error e) : ¬x.IsFinite := by
  intro hf
  obtain ⟨n, hn⟩ := roundHalfUp_of_inRange (hx hf)
  rw [hn] at h
  cases h

/-- A place on a circle of at most a turn. -/
theorem bounded_onCircle {turn : ℚ} (h0 : 0 < turn) (h : turn ≤ 360) (x : Binary64) :
    (x.onCircle turn).Bounded := by
  cases x with
  | finite v => exact fun _ => inRange_onCircle h0 h rfl
  | negativeZero => exact fun _ => inRange_onCircle h0 h rfl
  | infinite negative => exact bounded_indefinite
  | indefinite => exact bounded_indefinite

end Binary64

/-! ## Whole numbers beyond the range -/

/-- The least whole number that is rounded out of the range: half a unit beyond the largest number
of the format, where the tie goes up. -/
@[irreducible] def leastOverflow : Nat := twoTo 1024 - twoTo 970

theorem nearest_leastOverflow :
    nearest ((leastOverflow : Nat) : ℚ) = overflowBound ∧
      nearest ((leastOverflow - 1 : Nat) : ℚ) = largestWhole := by
  decide +kernel

theorem overflowBound_le_nearest_iff {n : Nat} :
    overflowBound ≤ nearest (n : ℚ) ↔ leastOverflow ≤ n := by
  obtain ⟨hleast, hbefore⟩ := nearest_leastOverflow
  constructor
  · intro hover
    by_contra hless
    have hle : (n : ℚ) ≤ ((leastOverflow - 1 : Nat) : ℚ) := Nat.cast_le.2 (by omega)
    have hmono := nearest_mono hle
    have hbound := largestWhole_lt_overflowBound
    linarith
  · intro hle
    rw [← hleast]
    exact nearest_mono (Nat.cast_le.2 hle)

/-- The sign does not matter for rounding. -/
theorem nearest_abs (q : ℚ) : nearest |q| = |nearest q| := by
  rcases le_total 0 q with hq | hq
  · rw [abs_of_nonneg hq, abs_of_nonneg (nearest_nonneg hq)]
  · have hneg : 0 ≤ nearest (-q) := nearest_nonneg (neg_nonneg.2 hq)
    rw [nearest_neg] at hneg
    rw [abs_of_nonpos hq, abs_of_nonpos (neg_nonneg.1 hneg), nearest_neg]

namespace Binary64

theorem exists_ofRat_eq_infinite_iff {q : ℚ} :
    (∃ negative, ofRat q = .infinite negative) ↔ overflowBound ≤ |nearest q| := by
  rw [le_abs]
  obtain ⟨hover, he⟩ | ⟨hunder, he⟩ | ⟨hlow, hhigh, he⟩ := ofRat_cases q
  · exact iff_of_true ⟨false, he⟩ (.inl hover)
  · exact iff_of_true ⟨true, he⟩ (.inr (by linarith))
  · refine iff_of_false ?_ (by rw [not_or]; constructor <;> linarith)
    rintro ⟨negative, hinf⟩
    rcases he with he | ⟨-, -, he⟩ <;> simp [he] at hinf

/-- **A whole number is too large for the format** from the middle between the largest number of
the format and the next power of two on. -/
theorem exists_ofInt_eq_infinite_iff {z : Int} :
    (∃ negative, ofInt z = .infinite negative) ↔ leastOverflow ≤ z.natAbs := by
  rw [ofInt, exists_ofRat_eq_infinite_iff, ← nearest_abs, ← Int.cast_abs, ← Nat.cast_natAbs,
    overflowBound_le_nearest_iff]

end Binary64

/-! ## Numerals -/

theorem tenTo_cast (k : Nat) : ((tenTo k : Nat) : ℚ) = 10 ^ k := Nat.cast_pow 10 k

theorem length_toString_le {n k : Nat} (hk : 0 < k) :
    (toString n).length ≤ k ↔ n < tenTo k := Nat.length_repr_le_iff hk

/-- A count of units of a decimal place. -/
theorem inRange_scaledByTen {n k : Nat} (h : n < (largestWhole + 1) * tenTo k) :
    (scaledByTen n (-(k : Int))).InRange := by
  have hten : (0 : ℚ) < 10 ^ k := by positivity
  have hlength : (toString n).length ≤ 309 + k := by
    have hk : (largestWhole + 1) * tenTo k ≤ tenTo 309 * tenTo k :=
      Nat.mul_le_mul_right _ largestWhole_bounds.2
    rw [length_toString_le (by omega), tenTo_add]
    exact lt_of_lt_of_le h hk
  have hq : (n : ℚ) / 10 ^ k ≤ largestWhole + 360 := by
    have hcast : (n : ℚ) < (largestWhole + 1) * ((tenTo k : Nat) : ℚ) := by exact_mod_cast h
    rw [tenTo_cast] at hcast
    rw [div_le_iff₀ hten]
    nlinarith
  unfold scaledByTen
  dsimp only
  split
  · exact Binary64.inRange_finite (le_refl 0) (by norm_num)
  · rw [if_neg (by omega)]
    split
    · rename_i he
      have hk : k = 0 := by omega
      subst hk
      refine Binary64.inRange_ofRat (by positivity) ?_
      simpa [tenTo_cast] using hq
    · rw [Rat.mkRat_eq_div, neg_neg, Int.toNat_natCast]
      rw [tenTo_cast, Int.cast_natCast]
      exact Binary64.inRange_ofRat (by positivity) hq

/-- **A decimal is within the range when its whole part is.** -/
theorem inRange_plainDecimal {whole : List Char} (h : digitsValue whole ≤ largestWhole)
    (fraction : List Char) : (plainDecimal whole fraction).InRange := by
  have hf := digitsValue_lt fraction
  apply inRange_scaledByTen
  rw [digitsValue_append]
  calc digitsValue whole * tenTo fraction.length + digitsValue fraction
      < (digitsValue whole + 1) * tenTo fraction.length := by rw [Nat.add_mul]; omega
    _ ≤ (largestWhole + 1) * tenTo fraction.length := Nat.mul_le_mul_right _ (by omega)

/-- **What is read from digits** is within the range if it is finite. -/
theorem bounded_plainDecimal (whole fraction : List Char) :
    (plainDecimal whole fraction).Bounded := by
  unfold plainDecimal scaledByTen
  dsimp only
  split
  · exact fun _ => Binary64.inRange_finite (le_refl 0) (by norm_num)
  · split
    · exact Binary64.bounded_infinite false
    · split
      · exact Binary64.bounded_ofRat (by positivity)
      · apply Binary64.bounded_ofRat
        rw [Rat.mkRat_eq_div]
        positivity

/-- What is read from too many digits. -/
theorem plainDecimal_of_large (whole : List Char) (h : tenTo 400 ≤ digitsValue whole) :
    plainDecimal whole [] = .infinite false := by
  have hpos : 0 < digitsValue whole := lt_of_lt_of_le (tenTo_pos 400) h
  have hlength : 400 < (toString (digitsValue whole)).length := by
    rw [← not_le, length_toString_le (by omega), not_lt]
    exact h
  unfold plainDecimal scaledByTen
  simp only [List.append_nil, List.length_nil]
  rw [if_neg (by simp only [Bool.or_eq_true, decide_eq_true_eq]; omega), if_pos (by omega)]

end Restyle.Numeric
