import Restyle.Matching.Keyboard
import Restyle.Proofs.Matching.EditScript

/-!
# Slips as edits

A slip to a neighbouring key puts one character of a text in the place of another one.  The table
of neighbours lists two neighbouring keys with each other, so it does not matter which of two texts
was meant and which was typed.  It lists no key with itself, so a slip is never less than an edit.

* `Slip` — one character is typed with a neighbouring key.
* `areNeighbours_mutual` — what the table says of two keys.
* `differences_eq_singleton_iff` — texts that differ in one place.
* `keyboard_slip_laws` — the test finds the slips, either way round, and a slip is one edit.
-/

set_option autoImplicit false

namespace Restyle.Matching

open Restyle.Text

variable {x y : Char} {xs ys : List Char}

/-! ## Neighbouring keys -/

/-- A key that is listed with another one is not that one, and lists it in turn. -/
theorem keyNeighbours_mutual : ∀ entry ∈ keyNeighbours, ∀ other ∈ entry.2.toList,
    areNeighbours other entry.1 = true ∧ entry.1 ≠ other := by
  decide +kernel

theorem areNeighbours_mutual (h : areNeighbours x y = true) :
    areNeighbours y x = true ∧ x ≠ y := by
  unfold areNeighbours at h
  split at h
  · rename_i keys hkeys
    obtain ⟨before, after, htable, -⟩ := List.lookup_eq_some_iff.1 hkeys
    have hentry : (x, keys) ∈ keyNeighbours := by simp [htable]
    have hother : y ∈ keys.toList := by simpa using h
    exact keyNeighbours_mutual (x, keys) hentry y hother
  · cases h

/-! ## Texts that differ in one place -/

theorem differences_cons (x y : Char) (xs ys : List Char) :
    differences (x :: xs) (y :: ys) =
      if x = y then differences xs ys else (x, y) :: differences xs ys := by
  by_cases hxy : x = y <;> simp [differences, hxy]

theorem differences_eq_nil_iff (h : xs.length = ys.length) : differences xs ys = [] ↔ xs = ys := by
  induction xs generalizing ys with
  | nil =>
    cases ys with
    | nil => simp [differences]
    | cons y ys => cases h
  | cons x xs ih =>
    cases ys with
    | nil => cases h
    | cons y ys =>
      rw [differences_cons]
      by_cases hxy : x = y
      · simp [hxy, ih (Nat.succ.inj h)]
      · simp [hxy]

/-- **One pair of different characters is left of two texts** exactly if they agree before it and
after it. -/
theorem differences_eq_singleton_iff (h : xs.length = ys.length) :
    differences xs ys = [(x, y)] ↔
      x ≠ y ∧ ∃ before after, xs = before ++ x :: after ∧ ys = before ++ y :: after := by
  constructor
  · intro hone
    induction xs generalizing ys with
    | nil => simp [differences] at hone
    | cons c xs ih =>
      cases ys with
      | nil => cases h
      | cons d ys =>
        have hlength : xs.length = ys.length := Nat.succ.inj h
        rw [differences_cons] at hone
        split at hone
        · rename_i hcd
          obtain ⟨hxy, before, after, hxs, hys⟩ := ih hlength hone
          exact ⟨hxy, c :: before, after, by simp [hxs], by simp [hcd, hys]⟩
        · rename_i hcd
          -- this is the place, and nothing differs behind it
          obtain ⟨hpair, hrest⟩ := List.cons.inj hone
          obtain ⟨rfl, rfl⟩ := Prod.mk.inj hpair
          have hsame : xs = ys := (differences_eq_nil_iff hlength).1 hrest
          exact ⟨hcd, [], xs, rfl, by simp [hsame]⟩
  · rintro ⟨hxy, before, after, rfl, rfl⟩
    have hafter : differences after after = [] := (differences_eq_nil_iff rfl).2 rfl
    induction before with
    | nil => simp [differences_cons, hxy, hafter]
    | cons b before ih => simpa [differences_cons] using ih (Nat.succ.inj h)

/-! ## Slips -/

/-- One character of a text is typed with a neighbouring key. -/
inductive Slip : List Char → List Char → Prop
  | mk (before after : List Char) {x y : Char} (neighbours : areNeighbours x y = true) :
    Slip (before ++ x :: after) (before ++ y :: after)

namespace Slip

theorem symm (h : Slip xs ys) : Slip ys xs := by
  obtain ⟨before, after, hxy⟩ := h
  exact .mk before after (areNeighbours_mutual hxy).1

theorem edit (h : Slip xs ys) : Edit xs ys := by
  obtain ⟨before, after, hxy⟩ := h
  exact .substitute before after _ _

theorem ne (h : Slip xs ys) : xs ≠ ys := by
  obtain ⟨before, after, hxy⟩ := h
  intro hsame
  have hcons := List.append_cancel_left hsame
  exact (areNeighbours_mutual hxy).2 (List.cons.inj hcons).1

/-- One edit is enough for a slip, and none is not. -/
theorem editDistanceChars_eq (h : Slip xs ys) : editDistanceChars xs ys = 1 := by
  have henough : editDistanceChars xs ys ≤ 1 := (Edits.single h.edit).editDistanceChars_le
  have hsome : editDistanceChars xs ys ≠ 0 := mt editDistanceChars_eq_zero.1 h.ne
  omega

end Slip

theorem isKeyboardSlip_iff (meant typed : String) :
    isKeyboardSlip meant typed = true ↔ Slip (lower meant).toList (lower typed).toList := by
  simp only [isKeyboardSlip, lower, String.toList_ofList, Bool.and_eq_true, beq_iff_eq]
  generalize lowerChars meant.toList = xs
  generalize lowerChars typed.toList = ys
  constructor
  · rintro ⟨hlength, hone⟩
    split at hone
    · rename_i x y hdiff
      obtain ⟨-, before, after, rfl, rfl⟩ := (differences_eq_singleton_iff hlength).1 hdiff
      exact .mk before after hone
    · cases hone
  · rintro (@⟨before, after, x, y, hxy⟩)
    have hlength : (before ++ x :: after).length = (before ++ y :: after).length := by simp
    have hne : x ≠ y := (areNeighbours_mutual hxy).2
    rw [(differences_eq_singleton_iff hlength).2 ⟨hne, before, after, rfl, rfl⟩]
    exact ⟨hlength, hxy⟩

/-- **The test finds the slips to a neighbouring key**, whichever of the two texts was meant, and
the texts of a slip are one edit apart in lower case. -/
theorem keyboard_slip_laws (a b : String) :
    (isKeyboardSlip a b = true ↔ Slip (lower a).toList (lower b).toList) ∧
      isKeyboardSlip a b = isKeyboardSlip b a ∧
      (isKeyboardSlip a b = true → editDistance (lower a) (lower b) = 1) := by
  refine ⟨isKeyboardSlip_iff a b, ?_, ?_⟩
  · rw [Bool.eq_iff_iff, isKeyboardSlip_iff, isKeyboardSlip_iff]
    exact ⟨Slip.symm, Slip.symm⟩
  · intro h
    exact ((isKeyboardSlip_iff a b).1 h).editDistanceChars_eq

/-- "Blie" is "blue" with an i in the place of the u beside it. -/
theorem keyboard_slip_blie :
    isKeyboardSlip "blue" "Blie" = true ∧ editDistance (lower "blue") (lower "Blie") = 1 := by
  have hslip : isKeyboardSlip "blue" "Blie" = true := by decide +kernel
  exact ⟨hslip, (keyboard_slip_laws "blue" "Blie").2.2 hslip⟩

end Restyle.Matching
