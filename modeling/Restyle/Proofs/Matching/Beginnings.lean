import Restyle.Proofs.Matching.EditScript

/-!
# Texts that almost begin with another one

A beginning of a text is one edit away from another text if one character is too many in it, is
missing from it, or is another one.  The test for it looks at one beginning only, which is longer
than the other text by the edits that may be spent.  So where the text goes on, all edits are spent
on the characters too many, and no character may be missing or another one.

* `add_length_le_iff_sublist` — a distance as small as the lengths allow.
* `BeginsWithin` — some beginning of a text is at most so many edits away from another text.
* `BeginsSpread` — a text begins with another one, but for some characters too many.
* `startsAlmostWith_iff` — what the test answers, and that it never says too much.
* `changed_character_refused` — it refuses a character that is another one.
-/

set_option autoImplicit false

namespace Restyle.Matching

open Restyle.Text

variable {xs ys cs hs : List Char} {spare : Nat}

/-! ## Lengths and distances -/

/-- A text is longer than another one by their distance at most. -/
theorem length_le_editDistanceChars_add (xs ys : List Char) :
    xs.length ≤ editDistanceChars xs ys + ys.length := by
  have hcount := (edits_editDistanceChars xs ys).countP_le fun _ => true
  rw [List.countP_true] at hcount
  omega

/-- **The distance is no more than the lengths ask for exactly if characters are only taken out**:
what is left is in the order in which it was. -/
theorem add_length_le_iff_sublist :
    editDistanceChars xs ys + ys.length ≤ xs.length ↔ ys.Sublist xs := by
  induction xs generalizing ys with
  | nil =>
    rw [editDistanceChars_nil_left, List.sublist_nil, List.length_nil, ← List.length_eq_zero_iff]
    omega
  | cons x xs ih =>
    cases ys with
    | nil => simp [editDistanceChars_nil_right]
    | cons y ys =>
      by_cases hxy : x = y
      · rw [hxy, editDistanceChars_cons_self, List.cons_sublist_cons, ← ih, List.length_cons,
          List.length_cons]
        omega
      · -- the first character is taken out, since anything else costs an edit that is not there
        have hother : (y :: ys).Sublist (x :: xs) ↔ (y :: ys).Sublist xs := by
          rw [List.sublist_cons_iff]
          refine or_iff_left ?_
          rintro ⟨rest, hcons, -⟩
          exact hxy (List.cons.inj hcons).1.symm
        have hinsert := length_le_editDistanceChars_add (x :: xs) ys
        have hsubstitute := length_le_editDistanceChars_add xs ys
        rw [hother, ← ih, editDistanceChars_cons_cons, if_neg hxy]
        simp only [List.length_cons] at hinsert ⊢
        omega

/-! ## Beginnings -/

/-- Some beginning of a text is at most so many edits away from another text. -/
def BeginsWithin (edits : Nat) (text head : List Char) : Prop :=
  ∃ beginning, beginning <+: text ∧ editDistanceChars beginning head ≤ edits

/-- A text begins with another one, but for at most so many characters that stand between. -/
def BeginsSpread (spare : Nat) (text head : List Char) : Prop :=
  ∃ beginning, beginning <+: text ∧ head.Sublist beginning ∧ beginning.length ≤ head.length + spare

theorem BeginsSpread.within (h : BeginsSpread spare cs hs) : BeginsWithin spare cs hs := by
  obtain ⟨beginning, hbegin, hsub, hlength⟩ := h
  have hdistance := add_length_le_iff_sublist.2 hsub
  exact ⟨beginning, hbegin, by omega⟩

/-- **The one beginning that is looked at** is near enough if the text begins with the other one, but
for characters too many, or as a whole is near enough. -/
theorem editDistanceChars_take_le_iff :
    editDistanceChars (cs.take (hs.length + spare)) hs ≤ spare ↔
      BeginsSpread spare cs hs ∨ editDistanceChars cs hs ≤ spare := by
  constructor
  · intro hnear
    rcases Nat.le_total (hs.length + spare) cs.length with hlong | hshort
    · -- the beginning is as long as it may be
      have hlength : (cs.take (hs.length + spare)).length = hs.length + spare :=
        List.length_take_of_le hlong
      have hsub : hs.Sublist (cs.take (hs.length + spare)) :=
        add_length_le_iff_sublist.1 (by omega)
      exact .inl ⟨_, List.take_prefix _ _, hsub, Nat.le_of_eq hlength⟩
    · rw [List.take_of_length_le hshort] at hnear
      exact .inr hnear
  · rintro (⟨beginning, hbegin, hsub, hlength⟩ | hnear)
    · have hlonger : beginning <+: cs.take (hs.length + spare) :=
        List.prefix_take_iff.2 ⟨hbegin, hlength⟩
      have hdistance := add_length_le_iff_sublist.2 (hsub.trans hlonger.sublist)
      have htake := List.length_take_le (hs.length + spare) cs
      omega
    · have hlength := length_le_editDistanceChars_add cs hs
      rwa [List.take_of_length_le (by omega)]

theorem startsAlmostWith_eq (text head : String) (spare : Nat) :
    startsAlmostWith text head spare = true ↔ (lower head).toList <+: (lower text).toList ∨
      editDistanceChars ((lower text).toList.take ((lower head).toList.length + spare))
        (lower head).toList ≤ spare := by
  simp only [startsAlmostWith, lower, String.toList_ofList, Bool.or_eq_true,
    List.isPrefixOf_iff_prefix, decide_eq_true_eq, ← Int.natCast_add, leading_natCast,
    Int.ofNat_le]

/-- **A text almost begins with another one** if it begins with it, but for characters too many, or
if the whole text is near enough.  Some beginning of it is then near enough, and where no edit may
be spent nothing else is asked for. -/
theorem startsAlmostWith_iff (text head : String) (spare : Nat) :
    (startsAlmostWith text head spare = true ↔
      BeginsSpread spare (lower text).toList (lower head).toList ∨
        editDistance (lower text) (lower head) ≤ spare) ∧
    (startsAlmostWith text head spare = true →
      BeginsWithin spare (lower text).toList (lower head).toList) ∧
    (startsAlmostWith text head 0 = true ↔
      BeginsWithin 0 (lower text).toList (lower head).toList) := by
  have hfew (edits : Nat) : startsAlmostWith text head edits = true ↔
      BeginsSpread edits (lower text).toList (lower head).toList ∨
        editDistance (lower text) (lower head) ≤ edits := by
    rw [startsAlmostWith_eq, editDistanceChars_take_le_iff]
    exact or_iff_right_of_imp fun hbegin =>
      .inl ⟨_, hbegin, List.Sublist.refl _, Nat.le_add_right _ _⟩
  have hsound (edits : Nat) (h : startsAlmostWith text head edits = true) :
      BeginsWithin edits (lower text).toList (lower head).toList := by
    rcases (hfew edits).1 h with hspread | hwhole
    · exact hspread.within
    · exact ⟨_, List.prefix_refl _, hwhole⟩
  refine ⟨hfew spare, hsound spare, hsound 0, ?_⟩
  rintro ⟨beginning, hbegin, hnone⟩
  have hequal : beginning = (lower head).toList := editDistanceChars_eq_zero.1 (by omega)
  exact (startsAlmostWith_eq text head 0).2 (.inl (hequal ▸ hbegin))

/-- **A character that is another one is refused where the text goes on**: "bqck" is one edit away
from "back", but "bqckground" does not almost begin with it. -/
theorem changed_character_refused :
    ¬(startsAlmostWith "bqckground" "back" 1 = true ↔
      BeginsWithin 1 (lower "bqckground").toList (lower "back").toList) := by
  intro h
  have hrefused : startsAlmostWith "bqckground" "back" 1 = false := by decide +kernel
  have hnear : BeginsWithin 1 (lower "bqckground").toList (lower "back").toList := by
    refine ⟨"bqck".toList, ?_, ?_⟩
    · decide +kernel
    · decide +kernel
  rw [h.2 hnear] at hrefused
  cases hrefused

end Restyle.Matching
