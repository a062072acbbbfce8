import Restyle.Numeric.Numeral
import Restyle.Proofs.Numeric.Nearest

/-!
# Numbers that are not negative

The components of a colour are read from unsigned decimals, and every step that the program
makes with them keeps them from becoming negative.  So the whole numbers that are written back
have no sign.

* `exists_floor_eq` — the whole number below a fraction.
* `ofRat_cases` — everything that the rounding of a fraction can be.
* `onCircle_cases` — what the remainder on a circle can be.
* `roundHalfUp_nonneg` — the whole number next to a number that is not negative.
-/

set_option autoImplicit false

namespace Restyle.Numeric

/-- The whole number below a fraction that is not negative. -/
theorem exists_floor_eq {q : ℚ} (h : 0 ≤ q) :
    ∃ n : Nat, q.floor = n ∧ (n : ℚ) ≤ q ∧ q < n + 1 := by
  obtain ⟨n, hn⟩ := Int.eq_ofNat_of_zero_le
    (Rat.le_floor_iff.2 (by exact_mod_cast h) : 0 ≤ q.floor)
  have hlow := Rat.floor_le q
  have hhigh := Rat.lt_floor_add_one q
  rw [hn] at hlow hhigh
  exact ⟨n, hn, by exact_mod_cast hlow, by exact_mod_cast hhigh⟩

namespace Binary64

/-- Not a finite number below zero. -/
def NotNegative (x : Binary64) : Prop := ∀ v, x = .finite v → 0 ≤ v

theorem notNegative_finite {v : ℚ} (h : 0 ≤ v) : NotNegative (.finite v) := by
  rintro _ ⟨⟩
  exact h

theorem overflowBound_pos : 0 < overflowBound := Nat.cast_pos.2 (twoTo_pos 1024)

/-- Everything that the rounding of a fraction can be: it overflows at either end, or it is finite,
where a fraction below zero that is rounded to zero keeps its sign. -/
theorem ofRat_cases (q : ℚ) :
    (overflowBound ≤ nearest q ∧ ofRat q = .infinite false) ∨
    (nearest q ≤ -overflowBound ∧ ofRat q = .infinite true) ∨
    (-overflowBound < nearest q ∧ nearest q < overflowBound ∧
      (ofRat q = .finite (nearest q) ∨ nearest q = 0 ∧ q < 0 ∧ ofRat q = .negativeZero)) := by
  have hpos := overflowBound_pos
  unfold ofRat
  dsimp only
  by_cases hzero : nearest q = 0
  · refine .inr (.inr ⟨by linarith, by linarith, ?_⟩)
    rw [if_pos hzero, hzero]
    by_cases hsign : q < 0
    · exact .inr ⟨rfl, hsign, if_pos hsign⟩
    · exact .inl (if_neg hsign)
  · rw [if_neg hzero]
    by_cases hhigh : overflowBound ≤ nearest q
    · exact .inl ⟨hhigh, if_pos hhigh⟩
    · rw [if_neg hhigh]
      by_cases hlow : nearest q ≤ -overflowBound
      · exact .inr (.inl ⟨hlow, if_pos hlow⟩)
      · exact .inr (.inr ⟨not_le.1 hlow, not_le.1 hhigh, .inl (if_neg hlow)⟩)

theorem notNegative_ofRat {q : ℚ} (h : 0 ≤ q) : (ofRat q).NotNegative := by
  obtain ⟨-, he⟩ | ⟨-, he⟩ | ⟨-, -, he | ⟨-, hneg, -⟩⟩ := ofRat_cases q
  · rintro v hv
    cases he.symm.trans hv
  · rintro v hv
    cases he.symm.trans hv
  · exact he ▸ notNegative_finite (nearest_nonneg h)
  · exact absurd hneg (not_lt.2 h)

/-- A number brought into a range that begins at zero or above. -/
theorem notNegative_clamp {low : ℚ} (h : 0 ≤ low) (high x : Binary64) :
    (clamp (.finite low) high x).NotNegative := by
  intro v hv
  unfold clamp at hv
  dsimp only at hv
  generalize (if x.lt high then x else high) = capped at hv
  split at hv
  · rename_i hlt
    rw [hv] at hlt
    have hlv : low < v := of_decide_eq_true hlt
    linarith
  · cases hv
    exact h

/-- The remainder on a circle of positive length: whole turns are taken off, or added until the
number is hardly negative, and then it is moved up by one turn more. -/
theorem onCircle_cases {turn : ℚ} (hturn : 0 < turn) (v : ℚ) : ∃ n : Nat,
    (0 ≤ v - turn * n ∧ v - turn * n < turn ∧
      (finite v).onCircle turn = .finite (v - turn * n)) ∨
    (v + turn * n = 0 ∧ (finite v).onCircle turn = .finite 0) ∨
    (v < 0 ∧ -turn < v + turn * n ∧ v + turn * n < 0 ∧
      (finite v).onCircle turn = ofRat (v + turn * n + turn)) := by
  have hv : turn * (v / turn) = v := mul_div_cancel₀ v hturn.ne'
  unfold onCircle
  dsimp only
  by_cases hq : 0 ≤ v / turn
  · obtain ⟨n, hn, hfloor, hnext⟩ := exists_floor_eq hq
    have hlow : 0 ≤ v - turn * n := by nlinarith
    refine ⟨n, .inl ⟨hlow, by nlinarith, ?_⟩⟩
    rw [if_pos hq, hn, Int.cast_natCast, if_neg (not_lt.2 hlow)]
  · have hneg : 0 ≤ -(v / turn) := by linarith
    obtain ⟨n, hn, hfloor, hnext⟩ := exists_floor_eq hneg
    have hrest : v - turn * ((-(n : Int) : Int) : ℚ) = v + turn * n := by
      push_cast
      rw [mul_neg, sub_neg_eq_add]
    have hhigh : v + turn * n ≤ 0 := by nlinarith
    rw [if_neg hq, hn, hrest]
    rcases eq_or_lt_of_le hhigh with h0 | hlt
    · refine ⟨n, .inr (.inl ⟨h0, ?_⟩)⟩
      rw [if_neg (by rw [h0]; exact lt_irrefl 0), h0]
    · refine ⟨n, .inr (.inr ⟨by nlinarith, by nlinarith, hlt, ?_⟩)⟩
      rw [if_pos hlt]

/-- The remainder on a circle of positive length. -/
theorem notNegative_onCircle {turn : ℚ} (hturn : 0 < turn) (x : Binary64) :
    (x.onCircle turn).NotNegative := by
  cases x with
  | finite v =>
    obtain ⟨n, ⟨hlow, -, he⟩ | ⟨-, he⟩ | ⟨-, hlow, -, he⟩⟩ := onCircle_cases hturn v
    · exact he ▸ notNegative_finite hlow
    · exact he ▸ notNegative_finite (le_refl 0)
    · exact he ▸ notNegative_ofRat (by linarith)
  | negativeZero => exact notNegative_finite (le_refl 0)
  | infinite negative => rintro v ⟨⟩
  | indefinite => rintro v ⟨⟩

/-- **The whole number next to a number that is not negative has no sign.** -/
theorem roundHalfUp_nonneg {x : Binary64} (hx : x.NotNegative) {n : Int}
    (h : x.roundHalfUp = .ok n) : 0 ≤ n := by
  have hsum : (x.add (.finite (1 / 2))).NotNegative := by
    cases x with
    | finite v =>
      have hv := hx v rfl
      exact notNegative_ofRat (by linarith)
    | negativeZero => exact notNegative_finite (by norm_num)
    | infinite negative => rintro v ⟨⟩
    | indefinite => rintro v ⟨⟩
  unfold roundHalfUp at h
  split at h
  · rename_i v hv
    cases h
    exact Rat.le_floor_iff.2 (by exact_mod_cast hsum v hv)
  · cases h
    exact le_refl 0
  · cases h
  · cases h

end Binary64

/-! ## Numerals -/

theorem notNegative_scaledByTen (n : Nat) (e : Int) : (scaledByTen n e).NotNegative := by
  unfold scaledByTen
  dsimp only
  split
  · exact Binary64.notNegative_finite (le_refl 0)
  · split
    · rintro v ⟨⟩
    · split
      · exact Binary64.notNegative_ofRat (by positivity)
      · apply Binary64.notNegative_ofRat
        rw [Rat.mkRat_eq_div]
        positivity

theorem notNegative_plainDecimal (whole fraction : List Char) :
    (plainDecimal whole fraction).NotNegative := notNegative_scaledByTen _ _

end Restyle.Numeric
