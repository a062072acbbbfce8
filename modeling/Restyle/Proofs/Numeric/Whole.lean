import Restyle.Proofs.Numeric.Grid

/-!
# Exact arithmetic on whole numbers

The format has all whole numbers of at most 53 bits.  So sums, remainders on the circle of degrees
and the rounding itself are exact on them.

* `Binary64.add_intCast`, `Binary64.onCircle_intCast`, `Binary64.roundHalfUp_intCast` — the
  operations on whole numbers.
* `scaledByTen_natCast` — what is read from the digits of a whole number.
-/

set_option autoImplicit false

namespace Restyle.Numeric

variable {z : Int} {n : Nat}

theorem natCast_le_largestWhole (h : n < 2 ^ 53) : (n : ℚ) ≤ largestWhole := by
  have hten : 2 ^ 53 ≤ tenTo 16 := by decide
  exact_mod_cast (h.le.trans hten).trans (tenTo_le_largestWhole (by decide))

theorem nearest_intCast (hl : -2 ^ 53 < z) (hh : z < 2 ^ 53) : nearest z = z := by
  obtain ⟨n, rfl | rfl⟩ := Int.eq_nat_or_neg z
  · exact_mod_cast nearest_natCast (n := n) (by omega)
  · push_cast
    rw [nearest_neg, nearest_natCast (by omega)]

namespace Binary64

/-- A whole number is in the format. -/
theorem ofRat_intCast (hl : -2 ^ 53 < z) (hh : z < 2 ^ 53) : ofRat z = .finite z := by
  have hlimit : ((2 ^ 53 - 1 : Nat) : ℚ) < overflowBound :=
    (natCast_le_largestWhole (by norm_num)).trans_lt largestWhole_lt_overflowBound
  have hlow : -((2 ^ 53 - 1 : Nat) : ℚ) ≤ z := by exact_mod_cast (by omega : -(2 ^ 53 - 1) ≤ z)
  have hhigh : (z : ℚ) ≤ (2 ^ 53 - 1 : Nat) := by exact_mod_cast (by omega : z ≤ 2 ^ 53 - 1)
  have hcases := ofRat_cases z
  rw [nearest_intCast hl hh] at hcases
  obtain ⟨hover, -⟩ | ⟨hover, -⟩ | ⟨-, -, he | ⟨hzero, hneg, -⟩⟩ := hcases
  · linarith
  · linarith
  · exact he
  · rw [hzero] at hneg
    exact absurd hneg (lt_irrefl 0)

theorem add_intCast {a b : Int} (hl : -2 ^ 53 < a + b) (hh : a + b < 2 ^ 53) :
    (finite a).add (.finite b) = .finite (a + b : Int) := by
  rw [add, ← Int.cast_add, ofRat_intCast hl hh]

/-- The remainder of a whole number on the circle of degrees. -/
theorem onCircle_intCast (z : Int) : (finite z).onCircle 360 = .finite (z % 360 : Int) := by
  obtain ⟨n, ⟨hlow, hhigh, he⟩ | ⟨hzero, he⟩ | ⟨-, hlow, hhigh, he⟩⟩ :=
    onCircle_cases (show (0 : ℚ) < 360 by norm_num) z
  · have h0 : 0 ≤ z - 360 * n := by exact_mod_cast hlow
    have h1 : z - 360 * n < 360 := by exact_mod_cast hhigh
    rw [he, show z % 360 = z - 360 * n by omega]
    push_cast
    rfl
  · have h0 : z + 360 * n = 0 := by exact_mod_cast hzero
    rw [he, show z % 360 = 0 by omega, Int.cast_zero]
  · have h0 : -360 < z + 360 * n := by exact_mod_cast hlow
    have h1 : z + 360 * n < 0 := by exact_mod_cast hhigh
    rw [he, show z % 360 = z + 360 * n + 360 by omega, ← ofRat_intCast (by omega) (by omega)]
    push_cast
    rfl

/-- A whole number is the one next to itself. -/
theorem roundHalfUp_intCast (h0 : 0 ≤ z) (h : z < 2 ^ 52) : (finite z).roundHalfUp = .ok z := by
  obtain ⟨n, rfl⟩ := Int.eq_ofNat_of_zero_le h0
  have hn : n < 2 ^ 52 := by exact_mod_cast h
  have hle := natCast_le_largestWhole (n := n) (by omega)
  rw [Int.cast_natCast, roundHalfUp_finite ⟨Nat.cast_nonneg n, hle⟩, halfUp_natCast hn]

end Binary64

/-- What is read from the digits of a whole number. -/
theorem scaledByTen_natCast (h : n < 2 ^ 53) : scaledByTen n 0 = .finite n := by
  have hten : 2 ^ 53 ≤ tenTo 16 := by decide
  have hlength : (toString n).length ≤ 16 := (length_toString_le (by decide)).2 (by omega)
  have hof := Binary64.ofRat_intCast (z := n) (by omega) (by omega)
  unfold scaledByTen
  dsimp only
  split
  · rename_i hzero
    obtain rfl : n = 0 := by
      simp only [Bool.or_eq_true, decide_eq_true_eq] at hzero
      omega
    rw [Nat.cast_zero]
  · rw [if_neg (by omega), if_pos (le_refl 0), Int.toNat_zero, show tenTo 0 = 1 by rfl, mul_one]
    exact_mod_cast hof

end Restyle.Numeric
