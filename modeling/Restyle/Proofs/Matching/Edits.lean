import Restyle.Proofs.Checked.Matching

/-!
# The recursion of the edit distance

A row holds the distances to every suffix of a text.  So the distance of two texts that are not
empty follows from those of their suffixes, and a character more changes it by one at most.

* `editDistanceChars_cons_cons` — the recursion.
* `isNear_iff` — a test for few edits, which gives up early.
-/

set_option autoImplicit false

namespace Restyle.Matching

variable {x y : Char} {xs ys : List Char}

/-! ## Rows -/

theorem exists_distanceRow (xs ys : List Char) :
    ∃ row, distanceRow ys xs = editDistanceChars xs ys :: row := by
  obtain ⟨d, row, h⟩ := List.exists_cons_of_length_eq_add_one (Checked.distanceRow_ok ys xs).2
  exact ⟨row, by simp [editDistanceChars, h]⟩

/-- The row of a longer text goes on with the row of the text. -/
theorem distanceRow_cons (xs ys : List Char) (y : Char) :
    distanceRow (y :: ys) xs = editDistanceChars xs (y :: ys) :: distanceRow ys xs := by
  induction xs with
  | nil => rfl
  | cons x xs ih =>
    obtain ⟨row, hrow⟩ := exists_distanceRow xs ys
    obtain ⟨rest, hrest⟩ := exists_distanceRow (x :: xs) ys
    have hlonger : longerRow x ys (distanceRow ys xs) = distanceRow ys (x :: xs) := rfl
    rw [hrow, hrest] at hlonger
    rw [editDistanceChars, distanceRow, ih, hrow]
    simp [longerRow, hlonger, hrest]

theorem distanceRow_nil (xs : List Char) : distanceRow [] xs = [xs.length] := by
  induction xs with
  | nil => rfl
  | cons x xs ih => simp [distanceRow, ih, longerRow]

/-! ## The recursion -/

theorem editDistanceChars_nil_left (ys : List Char) : editDistanceChars [] ys = ys.length := by
  cases ys <;> rfl

theorem editDistanceChars_nil_right (xs : List Char) : editDistanceChars xs [] = xs.length := by
  simp [editDistanceChars, distanceRow_nil]

theorem editDistanceChars_cons_cons (x y : Char) (xs ys : List Char) :
    editDistanceChars (x :: xs) (y :: ys) =
      min (min (editDistanceChars xs (y :: ys) + 1) (editDistanceChars (x :: xs) ys + 1))
        (editDistanceChars xs ys + if x = y then 0 else 1) := by
  obtain ⟨row, hrow⟩ := exists_distanceRow xs ys
  obtain ⟨rest, hrest⟩ := exists_distanceRow (x :: xs) ys
  have hlonger : longerRow x ys (distanceRow ys xs) = distanceRow ys (x :: xs) := rfl
  rw [hrow, hrest] at hlonger
  rw [editDistanceChars, distanceRow, distanceRow_cons, hrow]
  simp [longerRow, hlonger]

/-- A character more in the first text costs one edit at most. -/
theorem editDistanceChars_cons_left_le (x : Char) (xs ys : List Char) :
    editDistanceChars (x :: xs) ys ≤ editDistanceChars xs ys + 1 := by
  cases ys with
  | nil => simp [editDistanceChars_nil_right]
  | cons y ys =>
    rw [editDistanceChars_cons_cons]
    omega

theorem editDistanceChars_cons_right_le (y : Char) (xs ys : List Char) :
    editDistanceChars xs (y :: ys) ≤ editDistanceChars xs ys + 1 := by
  cases xs with
  | nil => simp [editDistanceChars_nil_left]
  | cons x xs =>
    rw [editDistanceChars_cons_cons]
    omega

/-- A character more in the first text saves one edit at most. -/
theorem le_editDistanceChars_cons_left (x : Char) (xs ys : List Char) :
    editDistanceChars xs ys ≤ editDistanceChars (x :: xs) ys + 1 := by
  induction ys with
  | nil => simp [editDistanceChars_nil_right]; omega
  | cons y ys ih =>
    have hright := editDistanceChars_cons_right_le y xs ys
    rw [editDistanceChars_cons_cons]
    split <;> omega

theorem le_editDistanceChars_cons_right (y : Char) (xs ys : List Char) :
    editDistanceChars xs ys ≤ editDistanceChars xs (y :: ys) + 1 := by
  induction xs with
  | nil => simp [editDistanceChars_nil_left]; omega
  | cons x xs ih =>
    have hleft := editDistanceChars_cons_left_le x xs ys
    rw [editDistanceChars_cons_cons]
    split <;> omega

/-- A common first character costs nothing. -/
theorem editDistanceChars_cons_self (x : Char) (xs ys : List Char) :
    editDistanceChars (x :: xs) (x :: ys) = editDistanceChars xs ys := by
  have hleft := le_editDistanceChars_cons_left x xs ys
  have hright := le_editDistanceChars_cons_right x xs ys
  rw [editDistanceChars_cons_cons, if_pos rfl]
  omega

theorem editDistanceChars_eq_zero : editDistanceChars xs ys = 0 ↔ xs = ys := by
  induction xs generalizing ys with
  | nil => simp [editDistanceChars_nil_left, eq_comm]
  | cons x xs ih =>
    cases ys with
    | nil => simp [editDistanceChars_nil_right]
    | cons y ys =>
      by_cases hxy : x = y
      · subst hxy
        simp [editDistanceChars_cons_self, ih]
      · rw [editDistanceChars_cons_cons]
        simp [hxy]

/-! ## Few edits -/

/-- Skips the common beginning of two texts and then spends an edit, in one of three ways, before
`near` looks at what is left. -/
def spendEdit (k : Nat) (near : List Char → List Char → Bool) : List Char → List Char → Bool
  | [], ys => ys.length ≤ k + 1
  | xs, [] => xs.length ≤ k + 1
  | x :: xs, y :: ys =>
    if x = y then spendEdit k near xs ys
    else near xs (y :: ys) || near (x :: xs) ys || near xs ys

/-- Whether a number of edits is enough.  Where it is not, the test gives up early. -/
def isNear : Nat → List Char → List Char → Bool
  | 0 => fun xs ys => xs == ys
  | k + 1 => spendEdit k (isNear k)

theorem spendEdit_iff {k : Nat} {near : List Char → List Char → Bool}
    (h : ∀ xs ys, near xs ys = true ↔ editDistanceChars xs ys ≤ k) :
    spendEdit k near xs ys = true ↔ editDistanceChars xs ys ≤ k + 1 := by
  induction xs generalizing ys with
  | nil => simp [spendEdit, editDistanceChars_nil_left]
  | cons x xs ih =>
    cases ys with
    | nil => simp [spendEdit, editDistanceChars_nil_right]
    | cons y ys =>
      rw [spendEdit]
      split
      · rename_i hxy
        rw [hxy, editDistanceChars_cons_self, ih]
      · rename_i hxy
        simp only [Bool.or_eq_true, h, editDistanceChars_cons_cons, if_neg hxy]
        omega

/-- **The test tells whether a number of edits is enough.** -/
theorem isNear_iff (k : Nat) (xs ys : List Char) :
    isNear k xs ys = true ↔ editDistanceChars xs ys ≤ k := by
  induction k generalizing xs ys with
  | zero => simp [isNear, editDistanceChars_eq_zero]
  | succ k ih => exact spendEdit_iff ih

end Restyle.Matching
