import Mathlib.Order.Bounds.Defs
import Restyle.Proofs.Matching.Edits

/-!
# The edit distance counts edits

An edit puts one character into a text, takes one out, or puts another one in its place.  The
rows of the edit distance look at both texts from their beginnings only, but no other sequence of
edits, wherever and in whatever order it edits, is shorter.

* `Edit`, `Edits` — one edit, and a number of edits one after another.
* `edits_editDistanceChars` — as many edits as the distance says are enough.
* `Edits.editDistanceChars_le` — fewer are not.
* `countP_le_editDistanceChars` — what the characters of one kind cost.
* `editDistance_counts_edits` — the distance is the least number of edits, and a metric.
-/

set_option autoImplicit false

namespace Restyle.Matching

variable {x y : Char} {xs ys zs : List Char} {m n : Nat}

/-! ## Edits -/

/-- One character is inserted, deleted or substituted. -/
inductive Edit : List Char → List Char → Prop
  | insert (before after : List Char) (c : Char) : Edit (before ++ after) (before ++ c :: after)
  | delete (before after : List Char) (c : Char) : Edit (before ++ c :: after) (before ++ after)
  | substitute (before after : List Char) (c d : Char) :
    Edit (before ++ c :: after) (before ++ d :: after)

/-- A number of edits, one after another. -/
inductive Edits : Nat → List Char → List Char → Prop
  | none (xs : List Char) : Edits 0 xs xs
  | first {n : Nat} {xs ys zs : List Char} : Edit xs ys → Edits n ys zs → Edits (n + 1) xs zs

theorem Edit.symm (h : Edit xs ys) : Edit ys xs := by
  cases h with
  | insert before after c => exact .delete before after c
  | delete before after c => exact .insert before after c
  | substitute before after c d => exact .substitute before after d c

/-- An edit behind a common first character. -/
theorem Edit.cons (h : Edit xs ys) (x : Char) : Edit (x :: xs) (x :: ys) := by
  cases h with
  | insert before after c => exact .insert (x :: before) after c
  | delete before after c => exact .delete (x :: before) after c
  | substitute before after c d => exact .substitute (x :: before) after c d

namespace Edits

theorem single (h : Edit xs ys) : Edits 1 xs ys := .first h (.none ys)

theorem trans (h : Edits m xs ys) (k : Edits n ys zs) : Edits (m + n) xs zs := by
  induction h with
  | none xs =>
    rw [Nat.zero_add]
    exact k
  | first he _ ih =>
    rw [Nat.add_right_comm]
    exact .first he (ih k)

/-- Edits are taken back in the opposite order. -/
theorem symm (h : Edits n xs ys) : Edits n ys xs := by
  induction h with
  | none xs => exact .none xs
  | first he _ ih => exact ih.trans (single he.symm)

theorem cons (h : Edits n xs ys) (x : Char) : Edits n (x :: xs) (x :: ys) := by
  induction h with
  | none xs => exact .none (x :: xs)
  | first he _ ih => exact .first (he.cons x) ih

/-- A text is deleted character by character. -/
theorem delete_all : ∀ xs : List Char, Edits xs.length xs []
  | [] => .none []
  | x :: xs => .first (.delete [] xs x) (delete_all xs)

end Edits

/-! ## Enough edits -/

/-- **As many edits as the distance says turn one text into the other**: each of the three ways
to go on in the recursion is one edit, or none where the characters agree. -/
theorem edits_editDistanceChars (xs ys : List Char) : Edits (editDistanceChars xs ys) xs ys := by
  induction xs generalizing ys with
  | nil =>
    rw [editDistanceChars_nil_left]
    exact (Edits.delete_all ys).symm
  | cons x xs ihx =>
    induction ys with
    | nil =>
      rw [editDistanceChars_nil_right]
      exact Edits.delete_all (x :: xs)
    | cons y ys ihy =>
      have hdelete : Edits (editDistanceChars xs (y :: ys) + 1) (x :: xs) (y :: ys) :=
        .first (.delete [] xs x) (ihx (y :: ys))
      have hinsert : Edits (editDistanceChars (x :: xs) ys + 1) (x :: xs) (y :: ys) :=
        ihy.trans (.single (.insert [] ys y))
      have hsubstitute :
          Edits (editDistanceChars xs ys + if x = y then 0 else 1) (x :: xs) (y :: ys) := by
        split
        · rename_i hxy
          rw [hxy]
          exact (ihx ys).cons y
        · exact .first (.substitute [] xs x y) ((ihx ys).cons y)
      have hbest :
          editDistanceChars (x :: xs) (y :: ys) = editDistanceChars xs (y :: ys) + 1 ∨
          editDistanceChars (x :: xs) (y :: ys) = editDistanceChars (x :: xs) ys + 1 ∨
          editDistanceChars (x :: xs) (y :: ys) =
            editDistanceChars xs ys + if x = y then 0 else 1 := by
        rw [editDistanceChars_cons_cons]
        omega
      rcases hbest with hbest | hbest | hbest
      · rw [hbest]
        exact hdelete
      · rw [hbest]
        exact hinsert
      · rw [hbest]
        exact hsubstitute

/-! ## Necessary edits -/

/-- A first character put before two texts adds at most what it costs to change it. -/
theorem editDistanceChars_cons_le {k : Nat}
    (h : ∀ zs, editDistanceChars xs zs ≤ editDistanceChars ys zs + k) (x y : Char)
    (zs : List Char) :
    editDistanceChars (x :: xs) zs ≤
      editDistanceChars (y :: ys) zs + k + if x = y then 0 else 1 := by
  induction zs with
  | nil =>
    have hlength := h []
    simp only [editDistanceChars_nil_right, List.length_cons] at hlength ⊢
    omega
  | cons z zs ih =>
    have hwhole := h (z :: zs)
    have hrest := h zs
    -- changing `x` into `z` is no dearer than changing it into `y` and that into `z`
    have hchange : (if x = z then 0 else 1) ≤
        (if x = y then 0 else 1) + if y = z then 0 else 1 := by
      by_cases hxy : x = y
      · simp [hxy]
      · simp only [if_neg hxy]
        split <;> omega
    rw [editDistanceChars_cons_cons, editDistanceChars_cons_cons]
    omega

/-- A common beginning adds nothing. -/
theorem editDistanceChars_append_le {k : Nat}
    (h : ∀ zs, editDistanceChars xs zs ≤ editDistanceChars ys zs + k) (before zs : List Char) :
    editDistanceChars (before ++ xs) zs ≤ editDistanceChars (before ++ ys) zs + k := by
  induction before generalizing zs with
  | nil => exact h zs
  | cons b before ih => simpa using editDistanceChars_cons_le ih b b zs

/-- One edit of the first text changes the distance by one at most. -/
theorem Edit.editDistanceChars_le (h : Edit xs ys) (zs : List Char) :
    editDistanceChars xs zs ≤ editDistanceChars ys zs + 1 := by
  cases h with
  | insert before after c =>
    exact editDistanceChars_append_le (le_editDistanceChars_cons_left c after) before zs
  | delete before after c =>
    exact editDistanceChars_append_le (editDistanceChars_cons_left_le c after) before zs
  | substitute before after c d =>
    refine editDistanceChars_append_le (fun ts => ?_) before zs
    have hchange : editDistanceChars (c :: after) ts ≤
        editDistanceChars (d :: after) ts + 0 + if c = d then 0 else 1 :=
      editDistanceChars_cons_le (fun us => Nat.le_refl _) c d ts
    split at hchange <;> omega

/-- **No sequence of edits is shorter than the distance.** -/
theorem Edits.editDistanceChars_le (h : Edits n xs ys) : editDistanceChars xs ys ≤ n := by
  induction h with
  | none xs => exact Nat.le_of_eq (editDistanceChars_eq_zero.2 rfl)
  | @first n xs ys zs he _ ih =>
    have hle := he.editDistanceChars_le zs
    omega

/-! ## Characters that one text has and the other has not -/

/-- One edit puts in or takes out one character of a kind at most. -/
theorem Edit.countP_le (h : Edit xs ys) (p : Char → Bool) : xs.countP p ≤ ys.countP p + 1 := by
  cases h with
  | insert before after c =>
    simp only [List.countP_append, List.countP_cons]
    omega
  | delete before after c =>
    simp only [List.countP_append, List.countP_cons]
    split <;> omega
  | substitute before after c d =>
    simp only [List.countP_append, List.countP_cons]
    split <;> omega

theorem Edits.countP_le (h : Edits n xs ys) (p : Char → Bool) :
    xs.countP p ≤ ys.countP p + n := by
  induction h with
  | none xs => exact Nat.le_refl _
  | first he _ ih =>
    have hfirst := he.countP_le p
    omega

/-- The characters of a kind that the other text has not are that many edits. -/
theorem countP_le_editDistanceChars {p : Char → Bool} (hy : ∀ c ∈ ys, p c = false) :
    xs.countP p ≤ editDistanceChars xs ys := by
  have hnone : ys.countP p = 0 := List.countP_eq_zero.2 fun c hc => by simp [hy c hc]
  have hcount := (edits_editDistanceChars xs ys).countP_le p
  omega

/-! ## The distance as a metric -/

theorem editDistanceChars_comm (xs ys : List Char) :
    editDistanceChars xs ys = editDistanceChars ys xs :=
  Nat.le_antisymm (edits_editDistanceChars ys xs).symm.editDistanceChars_le
    (edits_editDistanceChars xs ys).symm.editDistanceChars_le

theorem editDistanceChars_triangle (xs ys zs : List Char) :
    editDistanceChars xs zs ≤ editDistanceChars xs ys + editDistanceChars ys zs :=
  ((edits_editDistanceChars xs ys).trans (edits_editDistanceChars ys zs)).editDistanceChars_le

/-- **The edit distance is the least number of edits that turn one text into the other**, and so
it is a metric: it is zero for equal texts only, symmetric, and no detour is shorter. -/
theorem editDistance_counts_edits (a b : String) :
    IsLeast {n | Edits n a.toList b.toList} (editDistance a b) ∧
      (editDistance a b = 0 ↔ a = b) ∧
      editDistance a b = editDistance b a ∧
      ∀ c : String, editDistance a c ≤ editDistance a b + editDistance b c := by
  refine ⟨⟨edits_editDistanceChars a.toList b.toList, ?_⟩, ?_, ?_, ?_⟩
  · intro n hn
    exact hn.editDistanceChars_le
  · rw [editDistance, editDistanceChars_eq_zero, String.toList_inj]
  · exact editDistanceChars_comm a.toList b.toList
  · intro c
    exact editDistanceChars_triangle a.toList b.toList c.toList

example : editDistance "kitten" "sitting" = 3 := by decide +kernel

end Restyle.Matching
