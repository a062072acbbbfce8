import Mathlib.Algebra.Order.Field.Rat
import Mathlib.Tactic.Linarith
import Restyle.Proofs.Matching.EditScript
import Restyle.Proofs.Text.Lowered

/-!
# The similarity of two texts

The similarity of two texts is the share of the longer one that no edit touches.  Letter case is
put aside before edits are counted, but the longer text is measured before that.  One letter gets
longer when letter case is put aside, the capital I with a dot, which becomes an i and a dot above.
So a text with it may be more edits away from another one than the longer of the two has characters.

* `editDistanceChars_le_max` — a distance is no greater than the longer length.
* `length_lower` — how much longer a text is in lower case.
* `similarity_id` — the similarity without the case of empty texts.
* `similarity_laws` — its values, exactly.
* `similarity_below_zero` — texts with a negative similarity.
-/

set_option autoImplicit false

namespace Restyle.Matching

open Restyle.Text

/-! ## Lengths -/

/-- Every character of the longer text is edited at most once. -/
theorem editDistanceChars_le_max (xs ys : List Char) :
    editDistanceChars xs ys ≤ max xs.length ys.length := by
  induction xs generalizing ys with
  | nil =>
    rw [editDistanceChars_nil_left]
    exact Nat.le_max_right _ _
  | cons x xs ih =>
    cases ys with
    | nil =>
      rw [editDistanceChars_nil_right]
      exact Nat.le_max_left _ _
    | cons y ys =>
      have hrest := ih ys
      rw [editDistanceChars_cons_cons, List.length_cons, List.length_cons]
      split <;> omega

/-- Only the capital I with a dot becomes two characters in lower case. -/
theorem length_lowerFrom (after : Bool) (cs : List Char) :
    (lowerFrom after cs).length = cs.length + cs.count '\u0130' := by
  induction cs generalizing after with
  | nil => rfl
  | cons c rest ih =>
    rw [lowerFrom, List.length_append, ih, List.length_cons, List.count_cons]
    by_cases hdotted : c = '\u0130'
    · have hone : (lowerChar '\u0130').length = 2 := by decide
      rw [hdotted, if_neg (by decide), hone]
      simp only [BEq.rfl, if_true]
      omega
    · have hother : ¬c.toNat = 0x130 := fun h => hdotted (Char.toNat_inj.1 h)
      have hone : (if c.toNat = 0x3A3 then
          [if after && !casedAhead rest then 'ς' else 'σ'] else lowerChar c).length = 1 := by
        split
        · rfl
        · cases lowerChar_cases c with
          | ascii small lowered => rw [lowered, List.length_singleton]
          | dotted point lowered => exact absurd point hother
          | listed beyond undotted lowered => rw [lowered, List.length_singleton]
      rw [hone, if_neg (by simpa using hdotted)]
      omega

theorem length_lower (s : String) :
    (lower s).length = s.length + s.toList.count '\u0130' := by
  rw [lower, String.length_ofList, lowerChars, length_lowerFrom, String.length_toList]

/-! ## The share that no edit touches -/

variable {a b : String}

theorem editDistance_comm (a b : String) : editDistance a b = editDistance b a :=
  editDistanceChars_comm a.toList b.toList

theorem editDistance_eq_zero : editDistance a b = 0 ↔ a = b := by
  rw [editDistance, editDistanceChars_eq_zero, String.toList_inj]

theorem similarity_comm (ρ : Rounding) (a b : String) : similarity ρ a b = similarity ρ b a := by
  unfold similarity
  dsimp only
  rw [Nat.max_comm, editDistance_comm]

/-- **The similarity is one less the edits for each character of the longer text**: it is one where
there are no edits, never greater, and tells how many times there are as many edits as
characters. -/
theorem similarity_id (a b : String) :
    similarity id a b ≤ 1 ∧
    (similarity id a b = 1 ↔ editDistance (lower a) (lower b) = 0) ∧
    ∀ k : Nat, 1 - (k : Rat) ≤ similarity id a b ↔
      editDistance (lower a) (lower b) ≤ k * max a.length b.length := by
  unfold similarity
  dsimp only
  split
  · rename_i hempty
    have hboth : a.length = 0 ∧ b.length = 0 := by omega
    rw [String.length_eq_zero_iff, String.length_eq_zero_iff] at hboth
    have hnone : editDistance (lower a) (lower b) = 0 := by
      rw [hboth.1, hboth.2]
      exact editDistance_eq_zero.2 rfl
    refine ⟨le_refl 1, iff_of_true rfl hnone, fun k => iff_of_true ?_ ?_⟩
    · linarith [Nat.cast_nonneg (α := Rat) k]
    · omega
  · rename_i hlonger
    have hpos : (0 : Rat) < (max a.length b.length : Nat) := by
      exact_mod_cast Nat.pos_of_ne_zero hlonger
    simp only [id_eq, Rat.mkRat_eq_div, Int.cast_natCast]
    refine ⟨?_, ?_, fun k => ?_⟩
    · linarith [div_nonneg (Nat.cast_nonneg (α := Rat) (editDistance (lower a) (lower b))) hpos.le]
    · rw [sub_eq_self, div_eq_zero_iff, or_iff_left hpos.ne', Nat.cast_eq_zero]
    · rw [sub_le_sub_iff_left, div_le_iff₀ hpos]
      exact_mod_cast Iff.rfl

/-- There are no more edits than characters of the longer text in lower case. -/
theorem editDistance_lower_le (a b : String) : editDistance (lower a) (lower b) ≤
    max (a.length + a.toList.count '\u0130') (b.length + b.toList.count '\u0130') := by
  have hlonger := editDistanceChars_le_max (lower a).toList (lower b).toList
  rwa [String.length_toList, String.length_toList, length_lower, length_lower] at hlonger

/-- **The similarity of two texts** is the same both ways, is one exactly where they agree in lower
case, and lies between minus one and one.  It is below zero exactly where there are more edits than
the longer text has characters, and then a capital I with a dot stands in one of the texts. -/
theorem similarity_laws (a b : String) :
    similarity id a b = similarity id b a ∧
    (similarity id a b = 1 ↔ lower a = lower b) ∧
    (-1 ≤ similarity id a b ∧ similarity id a b ≤ 1) ∧
    (0 ≤ similarity id a b ↔
      editDistance (lower a) (lower b) ≤ max a.length b.length) ∧
    (0 ≤ similarity id a b ∨ '\u0130' ∈ a.toList ∨ '\u0130' ∈ b.toList) := by
  obtain ⟨hle, hone, hbelow⟩ := similarity_id a b
  have hzero : 0 ≤ similarity id a b ↔
      editDistance (lower a) (lower b) ≤ max a.length b.length := by
    simpa using hbelow 1
  have hedits := editDistance_lower_le a b
  refine ⟨similarity_comm id a b, hone.trans editDistance_eq_zero, ⟨?_, hle⟩, hzero, ?_⟩
  · -- a text at most doubles its length in lower case
    have ha := a.toList.count_le_length (a := '\u0130')
    have hb := b.toList.count_le_length (a := '\u0130')
    rw [String.length_toList] at ha hb
    have htwice : (1 : Rat) - (2 : Nat) ≤ similarity id a b := (hbelow 2).2 (by omega)
    linarith [show ((2 : Nat) : Rat) = 2 from rfl]
  · by_cases hplain : '\u0130' ∈ a.toList ∨ '\u0130' ∈ b.toList
    · exact .inr hplain
    · rw [not_or, ← List.count_eq_zero, ← List.count_eq_zero] at hplain
      rw [hplain.1, hplain.2] at hedits
      exact .inl (hzero.2 hedits)

/-- **The similarity of a capital I with a dot and an x is below zero**: the i and the dot above are
two edits away from the x, and the longer text has one character. -/
theorem similarity_below_zero :
    ¬(0 ≤ similarity id "\u0130" "x" ∧ similarity id "\u0130" "x" ≤ 1) := by
  have hvalue : similarity id "\u0130" "x" = -1 := by decide +kernel
  rw [hvalue]
  decide

end Restyle.Matching
