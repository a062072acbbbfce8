import Mathlib.Algebra.Order.Field.Power
import Mathlib.Data.Rat.Lemmas
import Mathlib.Tactic.FieldSimp
import Mathlib.Tactic.Linarith
import Mathlib.Tactic.Positivity
import Restyle.Numeric.Binary64

/-!
# Rounding to the binary format keeps the order

`nearest` rounds a fraction to 53 significant bits.  Its grid gets coarser as numbers grow, so
that the order is kept for two reasons: within one grid because rounding to whole units keeps
the order, and between two grids because the finer one ends where the coarser one begins.

* `roundHalfEven_mono` — rounding to whole units keeps the order.
* `nearest_mono` — rounding to the format keeps the order.
* `nearest_nonneg` — what is not negative stays so.
* `nearest_dyadic`, `nearest_natCast` — fractions and whole numbers of at most 53 bits stay as they
  are.
-/

set_option autoImplicit false

namespace Restyle.Numeric

/-! ## Whole units -/

/-- What a rounded quotient is: at most half a unit away, and even when it is exactly half. -/
theorem roundHalfEven_spec (n : Nat) {d : Nat} (hd : 0 < d) :
    2 * n ≤ 2 * (d * roundHalfEven n d) + d ∧ 2 * (d * roundHalfEven n d) ≤ 2 * n + d ∧
    (2 * n = 2 * (d * roundHalfEven n d) + d → roundHalfEven n d % 2 = 0) ∧
    (2 * (d * roundHalfEven n d) = 2 * n + d → roundHalfEven n d % 2 = 0) := by
  have hn := Nat.div_add_mod n d
  have hr := Nat.mod_lt n hd
  have hs : d * (n / d + 1) = d * (n / d) + d := Nat.mul_succ d (n / d)
  unfold roundHalfEven
  dsimp only
  split
  · refine ⟨by omega, by omega, fun h => by omega, fun h => by omega⟩
  · split
    · rw [hs]; refine ⟨by omega, by omega, fun h => by omega, fun h => by omega⟩
    · split
      · refine ⟨by omega, by omega, fun h => by omega, fun h => by omega⟩
      · rw [hs]; refine ⟨by omega, by omega, fun h => by omega, fun h => by omega⟩

/-- **Rounding to whole units keeps the order.** -/
theorem roundHalfEven_mono {n d n' d' : Nat} (hd : 0 < d) (hd' : 0 < d')
    (h : n * d' ≤ n' * d) : roundHalfEven n d ≤ roundHalfEven n' d' := by
  obtain ⟨-, hlow, -, htie⟩ := roundHalfEven_spec n hd
  obtain ⟨hhigh', -, htie', -⟩ := roundHalfEven_spec n' hd'
  generalize roundHalfEven n d = m at *
  generalize roundHalfEven n' d' = m' at *
  by_contra hlt
  have hm : m' + 1 ≤ m := by omega
  -- one unit apart, both quotients lie on the tie between the two
  have h1 : d' * (2 * (d * m)) ≤ d' * (2 * n + d) := Nat.mul_le_mul_left _ hlow
  have h2 : d * (2 * n') ≤ d * (2 * (d' * m') + d') := Nat.mul_le_mul_left _ hhigh'
  have h3 : d * d' * (m' + 1) ≤ d * d' * m := Nat.mul_le_mul_left _ hm
  have heq : d * d' * (m' + 1) = d * d' * m := by nlinarith
  have hmm : m' + 1 = m := Nat.eq_of_mul_eq_mul_left (Nat.mul_pos hd hd') heq
  subst hmm
  have e1 : d' * (2 * (d * (m' + 1))) = d' * (2 * n + d) := by nlinarith
  have e2 : d * (2 * n') = d * (2 * (d' * m') + d') := by nlinarith
  have t1 := htie (Nat.eq_of_mul_eq_mul_left hd' e1)
  have t2 := htie' (Nat.eq_of_mul_eq_mul_left hd e2)
  omega

theorem roundHalfEven_one (n : Nat) : roundHalfEven n 1 = n := by
  simp [roundHalfEven, Nat.mod_one]

/-- The same for quotients of fractions. -/
theorem roundHalfEven_mono_div {n d n' d' : Nat} (hd : 0 < d) (hd' : 0 < d')
    (h : (n : ℚ) / d ≤ (n' : ℚ) / d') : roundHalfEven n d ≤ roundHalfEven n' d' := by
  apply roundHalfEven_mono hd hd'
  rw [div_le_div_iff₀ (by exact_mod_cast hd) (by exact_mod_cast hd')] at h
  exact_mod_cast h

/-- A whole count of units stays as it is. -/
theorem roundHalfEven_of_div_eq {n d m : Nat} (hd : 0 < d) (h : (n : ℚ) / d = m) :
    roundHalfEven n d = m := by
  have hone : (n : ℚ) / d = (m : ℚ) / (1 : Nat) := by rw [h, Nat.cast_one, div_one]
  rw [← roundHalfEven_one m]
  exact le_antisymm (roundHalfEven_mono_div hd Nat.one_pos hone.le)
    (roundHalfEven_mono_div Nat.one_pos hd hone.ge)

/-! ## The grid of a number -/

theorem twoTo_cast (k : Nat) : (twoTo k : ℚ) = 2 ^ (k : Int) := by
  rw [zpow_natCast]
  unfold twoTo
  norm_cast

theorem le_two_zpow_log2 {n : Nat} (hn : 0 < n) :
    (2 : ℚ) ^ (Nat.log2 n : Int) ≤ n ∧ (n : ℚ) < 2 ^ ((Nat.log2 n : Int) + 1) := by
  have h1 := Nat.log2_self_le (Nat.pos_iff_ne_zero.1 hn)
  have h2 := Nat.lt_log2_self (n := n)
  refine ⟨by rw [zpow_natCast]; exact_mod_cast h1, ?_⟩
  rw [show ((Nat.log2 n : Int) + 1) = ((Nat.log2 n + 1 : Nat) : Int) by push_cast; rfl,
    zpow_natCast]
  exact_mod_cast h2

/-- The test by which the leading bit is found compares with a power of two. -/
theorem lt_two_zpow_iff (n : Nat) {d : Nat} (hd : 0 < d) (k : Int) :
    (if 0 ≤ k then decide (n < d * twoTo k.toNat) else decide (n * twoTo (-k).toNat < d)) = true ↔
      (n : ℚ) / d < 2 ^ k := by
  have hq : (0 : ℚ) < d := by exact_mod_cast hd
  split
  · rename_i hk
    have ht : (2 : ℚ) ^ k = twoTo k.toNat := by rw [twoTo_cast, Int.toNat_of_nonneg hk]
    rw [decide_eq_true_iff, ht, div_lt_iff₀ hq, mul_comm (twoTo _ : ℚ)]
    exact_mod_cast Iff.rfl
  · rename_i hk
    have ht : (2 : ℚ) ^ k = (twoTo (-k).toNat : ℚ)⁻¹ := by
      rw [twoTo_cast, Int.toNat_of_nonneg (by omega), ← zpow_neg, neg_neg]
    have hp : (0 : ℚ) < twoTo (-k).toNat := by exact_mod_cast twoTo_pos _
    rw [decide_eq_true_iff, ht, div_lt_iff₀ hq, ← div_eq_inv_mul, lt_div_iff₀ hp]
    exact_mod_cast Iff.rfl

/-- The last bit that is kept stands 52 places after the leading one, or at the end of the
format. -/
theorem lastBitExponent_spec {n d : Nat} (hn : 0 < n) (hd : 0 < d) :
    ∃ top : Int, (2 : ℚ) ^ top ≤ n / d ∧ (n : ℚ) / d < 2 ^ (top + 1) ∧
      lastBitExponent n d = if top - 52 ≤ -1074 then -1074 else top - 52 := by
  obtain ⟨hn1, hn2⟩ := le_two_zpow_log2 hn
  obtain ⟨hd1, hd2⟩ := le_two_zpow_log2 hd
  have hq : (0 : ℚ) < d := by exact_mod_cast hd
  obtain ⟨k, hk⟩ : ∃ k : Int, k = (Nat.log2 n : Int) - Nat.log2 d := ⟨_, rfl⟩
  have hlow : (2 : ℚ) ^ (k - 1) ≤ n / d := by
    rw [le_div_iff₀ hq]
    refine le_trans ?_ hn1
    calc (2 : ℚ) ^ (k - 1) * d ≤ 2 ^ (k - 1) * 2 ^ ((Nat.log2 d : Int) + 1) := by gcongr
      _ = 2 ^ (Nat.log2 n : Int) := by rw [← zpow_add₀ (by norm_num)]; congr 1; omega
  have hhigh : (n : ℚ) / d < 2 ^ (k + 1) := by
    rw [div_lt_iff₀ hq]
    refine lt_of_lt_of_le hn2 ?_
    calc (2 : ℚ) ^ ((Nat.log2 n : Int) + 1) = 2 ^ (k + 1) * 2 ^ (Nat.log2 d : Int) := by
          rw [← zpow_add₀ (by norm_num)]; congr 1; omega
      _ ≤ 2 ^ (k + 1) * d := by gcongr
  have hsmall := lt_two_zpow_iff n hd k
  unfold lastBitExponent
  dsimp only
  rw [← hk]
  by_cases hs : (n : ℚ) / d < 2 ^ k
  · refine ⟨k - 1, hlow, by rwa [sub_add_cancel], ?_⟩
    rw [if_pos (hsmall.2 hs)]
    omega
  · refine ⟨k, not_lt.1 hs, hhigh, ?_⟩
    rw [if_neg (mt hsmall.1 hs)]
    omega

/-- A rounded number is a whole count of units of its grid. -/
theorem nearestPositive_spec (n : Nat) {d : Nat} (hd : 0 < d) :
    ∃ N D : Nat, 0 < D ∧ (N : ℚ) / D = n / d / 2 ^ lastBitExponent n d ∧
      nearestPositive n d = roundHalfEven N D * 2 ^ lastBitExponent n d := by
  unfold nearestPositive
  dsimp only
  generalize lastBitExponent n d = e
  have hq : (d : ℚ) ≠ 0 := by exact_mod_cast hd.ne'
  split
  · rename_i he
    refine ⟨n, d * twoTo e.toNat, Nat.mul_pos hd (twoTo_pos _), ?_, ?_⟩
    · push_cast
      rw [twoTo_cast, Int.toNat_of_nonneg he, div_div]
    · push_cast
      rw [twoTo_cast, Int.toNat_of_nonneg he]
  · rename_i he
    have ht : (twoTo (-e).toNat : ℚ) = (2 ^ e)⁻¹ := by
      rw [twoTo_cast, Int.toNat_of_nonneg (by omega), zpow_neg]
    refine ⟨n * twoTo (-e).toNat, d, hd, ?_, ?_⟩
    · push_cast
      rw [ht]
      field_simp
    · rw [Rat.mkRat_eq_div, Int.cast_natCast, ht, div_inv_eq_mul]

/-- No number has more units of its grid than one bit more than the format keeps. -/
theorem roundHalfEven_le_twoTo {n d N D : Nat} (hn : 0 < n) (hd : 0 < d) (hD : 0 < D)
    (hx : (N : ℚ) / D = n / d / 2 ^ lastBitExponent n d) : roundHalfEven N D ≤ twoTo 53 := by
  obtain ⟨top, -, hhigh, he⟩ := lastBitExponent_spec hn hd
  rw [← roundHalfEven_one (twoTo 53)]
  apply roundHalfEven_mono_div hD Nat.one_pos
  rw [hx, Nat.cast_one, div_one, div_le_iff₀ (by positivity), twoTo_cast,
    ← zpow_add₀ (by norm_num)]
  exact hhigh.le.trans (zpow_le_zpow_right₀ (by norm_num) (by split at he <;> omega))

/-! ## Order -/

/-- Rounding positive fractions keeps the order. -/
theorem nearestPositive_mono {n d n' d' : Nat} (hn : 0 < n) (hd : 0 < d) (hn' : 0 < n')
    (hd' : 0 < d') (h : (n : ℚ) / d ≤ n' / d') : nearestPositive n d ≤ nearestPositive n' d' := by
  obtain ⟨top, hlow, hhigh, he⟩ := lastBitExponent_spec hn hd
  obtain ⟨top', hlow', hhigh', he'⟩ := lastBitExponent_spec hn' hd'
  obtain ⟨N, D, hD, hx, hv⟩ := nearestPositive_spec n hd
  obtain ⟨N', D', hD', hx', hv'⟩ := nearestPositive_spec n' hd'
  have htop : top < top' + 1 :=
    (zpow_lt_zpow_iff_right₀ (by norm_num : (1 : ℚ) < 2)).1 (lt_of_le_of_lt (hlow.trans h) hhigh')
  have hmax := roundHalfEven_le_twoTo hn hd hD hx
  rw [hv, hv']
  generalize lastBitExponent n d = e at *
  generalize lastBitExponent n' d' = e' at *
  have hee : e ≤ e' := by rw [he, he']; split <;> split <;> omega
  rcases eq_or_lt_of_le hee with heq | hlt
  · -- one grid
    have hxx : (N : ℚ) / D ≤ N' / D' := by rw [hx, hx', heq]; gcongr
    have hr : roundHalfEven N D ≤ roundHalfEven N' D' := roundHalfEven_mono_div hD hD' hxx
    rw [heq]
    gcongr
  · -- two grids, which meet at the count of units that has one more bit than the format
    have hmin : twoTo 52 ≤ roundHalfEven N' D' := by
      rw [← roundHalfEven_one (twoTo 52)]
      apply roundHalfEven_mono_div Nat.one_pos hD'
      rw [hx', Nat.cast_one, div_one, le_div_iff₀ (by positivity), twoTo_cast,
        ← zpow_add₀ (by norm_num)]
      refine le_trans (zpow_le_zpow_right₀ (by norm_num) ?_) hlow'
      split at he' <;> split at he <;> omega
    calc (roundHalfEven N D : ℚ) * 2 ^ e ≤ twoTo 53 * 2 ^ e := by gcongr
      _ = 2 ^ (53 + e) := by rw [twoTo_cast, ← zpow_add₀ (by norm_num)]; rfl
      _ ≤ 2 ^ (52 + e') := zpow_le_zpow_right₀ (by norm_num) (by omega)
      _ = twoTo 52 * 2 ^ e' := by rw [twoTo_cast, ← zpow_add₀ (by norm_num)]; rfl
      _ ≤ roundHalfEven N' D' * 2 ^ e' := by gcongr

theorem nearestPositive_nonneg (n : Nat) {d : Nat} (hd : 0 < d) : 0 ≤ nearestPositive n d := by
  obtain ⟨N, D, -, -, hv⟩ := nearestPositive_spec n hd
  rw [hv]
  positivity

theorem nearest_zero : nearest 0 = 0 := rfl

theorem nearest_of_pos {q : ℚ} (h : 0 < q) : nearest q = nearestPositive q.num.natAbs q.den := by
  have hn := Rat.num_pos.2 h
  unfold nearest
  rw [if_neg hn.ne', if_pos hn]

theorem nearest_neg (q : ℚ) : nearest (-q) = -nearest q := by
  unfold nearest
  simp only [Rat.neg_num, Rat.neg_den, Int.natAbs_neg, neg_eq_zero, Left.neg_pos_iff]
  split
  · rw [neg_zero]
  · split <;> split <;> first | rfl | omega | rw [neg_neg]

/-- What is not negative stays so. -/
theorem nearest_nonneg {q : ℚ} (h : 0 ≤ q) : 0 ≤ nearest q := by
  rcases eq_or_lt_of_le h with rfl | hpos
  · exact le_of_eq nearest_zero.symm
  · rw [nearest_of_pos hpos]
    exact nearestPositive_nonneg _ q.den_pos

theorem natAbs_num_div_den {q : ℚ} (h : 0 ≤ q) : ((q.num.natAbs : Nat) : ℚ) / q.den = q := by
  rw [show ((q.num.natAbs : Nat) : ℚ) = ((q.num.natAbs : Int) : ℚ) from rfl,
    Int.natAbs_of_nonneg (Rat.num_nonneg.2 h)]
  exact Rat.num_div_den q

theorem nearest_mono_of_nonneg {p q : ℚ} (hp : 0 ≤ p) (h : p ≤ q) : nearest p ≤ nearest q := by
  rcases eq_or_lt_of_le hp with rfl | hpos
  · exact nearest_nonneg h
  · have hq : 0 < q := lt_of_lt_of_le hpos h
    rw [nearest_of_pos hpos, nearest_of_pos hq]
    apply nearestPositive_mono (Int.natAbs_pos.2 (Rat.num_pos.2 hpos).ne') p.den_pos
      (Int.natAbs_pos.2 (Rat.num_pos.2 hq).ne') q.den_pos
    rwa [natAbs_num_div_den hp, natAbs_num_div_den hq.le]

/-- **Rounding to the format keeps the order.** -/
theorem nearest_mono {p q : ℚ} (h : p ≤ q) : nearest p ≤ nearest q := by
  rcases le_total 0 p with hp | hp
  · exact nearest_mono_of_nonneg hp h
  · rcases le_total 0 q with hq | hq
    · have h1 := nearest_nonneg (neg_nonneg.2 hp)
      have h2 := nearest_nonneg hq
      rw [nearest_neg] at h1
      linarith
    · have := nearest_mono_of_nonneg (neg_nonneg.2 hq) (neg_le_neg h)
      rw [nearest_neg, nearest_neg] at this
      linarith

/-! ## Numbers that stay as they are -/

/-- The grid of a fraction of at most 53 bits has this fraction. -/
theorem nearestPositive_dyadic {n d m k : Nat} (hn : 0 < n) (hd : 0 < d) (hm : m < 2 ^ 53)
    (hk : k ≤ 1074) (h : (n : ℚ) / d = m / 2 ^ k) : nearestPositive n d = m / 2 ^ k := by
  obtain ⟨top, hlow, -, he⟩ := lastBitExponent_spec hn hd
  obtain ⟨N, D, hD, hx, hv⟩ := nearestPositive_spec n hd
  rw [h] at hlow hx
  have htop : top < 53 - k := by
    rw [← zpow_lt_zpow_iff_right₀ (by norm_num : (1 : ℚ) < 2), zpow_sub₀ two_ne_zero,
      zpow_natCast]
    exact lt_of_le_of_lt hlow (by gcongr; exact_mod_cast hm)
  have hek : lastBitExponent n d ≤ -k := by rw [he]; split <;> omega
  rw [hv]
  generalize lastBitExponent n d = e at *
  obtain ⟨j, rfl⟩ : ∃ j : Nat, e = -(k + j : Nat) := ⟨(-e - k).toNat, by omega⟩
  have hpow : (2 : ℚ) ^ (-((k + j : Nat) : Int)) = (2 ^ k * 2 ^ j)⁻¹ := by
    rw [zpow_neg, zpow_natCast, pow_add]
  have hunits : (N : ℚ) / D = (m * 2 ^ j : Nat) := by
    rw [hx, hpow]
    push_cast
    field_simp
  rw [roundHalfEven_of_div_eq hD hunits, hpow]
  push_cast
  field_simp

/-- **Fractions of at most 53 bits stay as they are.** -/
theorem nearest_dyadic {m k : Nat} (hm : m < 2 ^ 53) (hk : k ≤ 1074) :
    nearest ((m : ℚ) / 2 ^ k) = m / 2 ^ k := by
  rcases Nat.eq_zero_or_pos m with rfl | hpos
  · rw [Nat.cast_zero, zero_div, nearest_zero]
  · have hq : (0 : ℚ) < m / 2 ^ k := by positivity
    rw [nearest_of_pos hq]
    exact nearestPositive_dyadic (Int.natAbs_pos.2 (Rat.num_pos.2 hq).ne') (Rat.den_pos _) hm hk
      (natAbs_num_div_den hq.le)

/-- Whole numbers of at most 53 bits stay as they are. -/
theorem nearest_natCast {n : Nat} (h : n < 2 ^ 53) : nearest n = n := by
  have hn := nearest_dyadic h (Nat.zero_le 1074)
  rwa [pow_zero, div_one] at hn

end Restyle.Numeric
