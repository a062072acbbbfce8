import Restyle.Proofs.Matching.Comparison
import Restyle.Proofs.Text.Squeezed

/-!
# Possessive endings

A possessive is an `'s` that no word character follows.  When possessives are left out, what comes
next to each other is no new one: behind it stands no word character, so no `s`.  White space
between two words is not touched, and a word of which nothing is left is made of possessives alone.

* `HasPossessive` — a possessive stands in a text.
* `not_hasPossessive_dropPossessives` — none is left.
* `dropPossessives_append` — they are left out on both sides of white space.
* `dropPossessives_eq_nil_iff` — texts of which nothing is left.
-/

set_option autoImplicit false

namespace Restyle.Matching

open Restyle.Text

variable {c : Char} {cs ds : List Char}

/-- A possessive stands in a text. -/
def HasPossessive (cs : List Char) : Prop :=
  ∃ before after, cs = before ++ '\'' :: 's' :: after ∧ ∀ c ∈ after.head?, isWordChar c = false

theorem atWordEnd_iff : atWordEnd cs = true ↔ ∀ c ∈ cs.head?, isWordChar c = false := by
  cases cs with
  | nil => simp [atWordEnd]
  | cons c rest => simp [atWordEnd]

theorem isWordChar_quote : isWordChar '\'' = false := by decide +kernel

theorem isWordChar_s : isWordChar 's' = true := by decide +kernel

/-! ## The possessives of a text -/

theorem not_hasPossessive_nil : ¬HasPossessive [] := by
  rintro ⟨before, after, h, -⟩
  simp at h

/-- A possessive is at the front of a text or behind its first character. -/
theorem hasPossessive_cons : HasPossessive (c :: cs) ↔
    (∃ rest, c = '\'' ∧ cs = 's' :: rest ∧ atWordEnd rest = true) ∨ HasPossessive cs := by
  constructor
  · rintro ⟨before, after, h, hafter⟩
    cases before with
    | nil =>
      obtain ⟨rfl, rfl⟩ := List.cons.inj h
      exact .inl ⟨after, rfl, rfl, atWordEnd_iff.2 hafter⟩
    | cons b before =>
      obtain ⟨rfl, rfl⟩ := List.cons.inj h
      exact .inr ⟨before, after, rfl, hafter⟩
  · rintro (⟨rest, rfl, rfl, hend⟩ | ⟨before, after, rfl, hafter⟩)
    · exact ⟨[], rest, rfl, atWordEnd_iff.1 hend⟩
    · exact ⟨c :: before, after, rfl, hafter⟩

/-- White space around a text makes no possessive. -/
theorem hasPossessive_of_trimChars (h : HasPossessive (trimChars cs)) : HasPossessive cs := by
  obtain ⟨before, after, htrim, hafter⟩ := h
  obtain ⟨front, back, -, hback, hcs⟩ := exists_gaps cs
  refine ⟨front ++ before, after ++ back, ?_, ?_⟩
  · rw [hcs, htrim]
    simp
  · intro c hc
    cases after with
    | nil => exact isWordChar_of_isBlank (hback c (List.mem_of_mem_head? hc))
    | cons d rest => exact hafter c hc

theorem atWordEnd_squeezeChars (cs : List Char) : atWordEnd (squeezeChars cs) = atWordEnd cs := by
  have hspace : atWordEnd [' '] = true := by decide +kernel
  fun_induction squeezeChars cs with
  | case1 => rfl
  | case2 c hc =>
    rw [hspace, atWordEnd, isWordChar_of_isBlank hc]
    rfl
  | case3 c hc d rest hd ih =>
    rw [ih, atWordEnd, atWordEnd, isWordChar_of_isBlank hc, isWordChar_of_isBlank hd]
  | case4 c hc d rest hd ih =>
    rw [atWordEnd, atWordEnd, isWordChar_of_isBlank hc]
    exact hspace
  | case5 c rest hc ih => rfl

/-- A word character at the front is that of the text. -/
theorem squeezeChars_eq_cons (hc : isWordChar c = true) (h : squeezeChars cs = c :: ds) :
    ∃ rest, cs = c :: rest ∧ ds = squeezeChars rest := by
  have hword := atWordEnd_squeezeChars cs
  rw [h, atWordEnd, hc] at hword
  cases cs with
  | nil => cases h
  | cons d rest =>
    have hd : isBlank d = false := by
      by_contra hblank
      rw [atWordEnd, isWordChar_of_isBlank (by simpa using hblank)] at hword
      cases hword
    rw [squeezeChars_cons_solid hd] at h
    obtain ⟨rfl, rfl⟩ := List.cons.inj h
    exact ⟨rest, rfl, rfl⟩

/-- White space between words makes no possessive. -/
theorem hasPossessive_of_squeezeChars (h : HasPossessive (squeezeChars cs)) :
    HasPossessive cs := by
  fun_induction squeezeChars cs with
  | case1 => exact h
  | case2 c hc =>
    rcases hasPossessive_cons.1 h with ⟨rest, hquote, -⟩ | hnil
    · cases hquote
    · exact absurd hnil not_hasPossessive_nil
  | case3 c hc d rest hd ih => exact hasPossessive_cons.2 (.inr (ih h))
  | case4 c hc d rest hd ih =>
    rcases hasPossessive_cons.1 h with ⟨rest, hquote, -⟩ | hrest
    · cases hquote
    · exact hasPossessive_cons.2 (.inr (ih hrest))
  | case5 c rest hc ih =>
    rcases hasPossessive_cons.1 h with ⟨tail, rfl, hs, hend⟩ | hrest
    · obtain ⟨next, rfl, rfl⟩ := squeezeChars_eq_cons isWordChar_s hs
      rw [atWordEnd_squeezeChars] at hend
      exact hasPossessive_cons.2 (.inl ⟨next, rfl, rfl, hend⟩)
    · exact hasPossessive_cons.2 (.inr (ih hrest))

/-! ## Leaving them out -/

theorem atWordEnd_dropPossessives (cs : List Char) :
    atWordEnd (dropPossessives cs) = atWordEnd cs := by
  fun_induction dropPossessives cs with
  | case1 => rfl
  | case2 rest hend ih =>
    rw [ih, hend, atWordEnd, isWordChar_quote]
    rfl
  | case3 rest hend ih => rfl
  | case4 c rest _ ih => rfl

/-- A character that is not the sign of a possessive stays at the front. -/
theorem dropPossessives_cons (hc : c ≠ '\'') (cs : List Char) :
    dropPossessives (c :: cs) = c :: dropPossessives cs := by
  rw [dropPossessives]
  rintro rest rfl
  exact absurd rfl hc

/-- **No possessive is left.** -/
theorem not_hasPossessive_dropPossessives (cs : List Char) :
    ¬HasPossessive (dropPossessives cs) := by
  fun_induction dropPossessives cs with
  | case1 => exact not_hasPossessive_nil
  | case2 rest hend ih => exact ih
  | case3 rest hend ih =>
    rw [hasPossessive_cons, hasPossessive_cons]
    rintro (⟨tail, -, htail, hafter⟩ | ⟨tail, hquote, -⟩ | hrest)
    · obtain ⟨-, rfl⟩ := List.cons.inj htail
      rw [atWordEnd_dropPossessives] at hafter
      exact hend hafter
    · exact absurd hquote (by decide)
    · exact ih hrest
  | case4 c rest hother ih =>
    rw [hasPossessive_cons]
    rintro (⟨tail, rfl, htail, -⟩ | hrest)
    · -- the text goes on with a word character, which stays where it is
      have hword := atWordEnd_dropPossessives rest
      rw [htail, atWordEnd, isWordChar_s] at hword
      cases rest with
      | nil => cases htail
      | cons d rest =>
        have hd : d ≠ '\'' := by
          rintro rfl
          rw [atWordEnd, isWordChar_quote] at hword
          cases hword
        rw [dropPossessives_cons hd] at htail
        obtain ⟨rfl, -⟩ := List.cons.inj htail
        exact hother rest rfl rfl
    · exact ih hrest

/-- A text without possessives stays as it is. -/
theorem dropPossessives_of_not (h : ¬HasPossessive cs) : dropPossessives cs = cs := by
  fun_induction dropPossessives cs with
  | case1 => rfl
  | case2 rest hend ih =>
    exact absurd (hasPossessive_cons.2 (.inl ⟨rest, rfl, rfl, hend⟩)) h
  | case3 rest hend ih =>
    rw [ih fun hrest => h (hasPossessive_cons.2 (.inr (hasPossessive_cons.2 (.inr hrest))))]
  | case4 c rest _ ih => rw [ih fun hrest => h (hasPossessive_cons.2 (.inr hrest))]

/-! ## White space and possessives -/

/-- **Possessives are left out on both sides of white space.** -/
theorem dropPossessives_append (h : ∀ c ∈ ds.head?, isBlank c = true) (cs : List Char) :
    dropPossessives (cs ++ ds) = dropPossessives cs ++ dropPossessives ds := by
  have hends : atWordEnd ds = true :=
    atWordEnd_iff.2 fun c hc => isWordChar_of_isBlank (h c hc)
  have hend (rest : List Char) : atWordEnd (rest ++ ds) = atWordEnd rest := by
    cases rest with
    | nil => exact hends
    | cons d rest => rfl
  fun_induction dropPossessives cs with
  | case1 => rfl
  | case2 rest hrest ih =>
    rw [List.cons_append, List.cons_append, dropPossessives, if_pos ((hend rest).trans hrest), ih]
  | case3 rest hrest ih =>
    rw [List.cons_append, List.cons_append, dropPossessives, if_neg (by rwa [hend]), ih]
    rfl
  | case4 c rest hother ih =>
    rw [List.cons_append, dropPossessives, ih]
    · rfl
    · -- the text does not begin with a possessive, nor does what follows go on with an `s`
      rintro tail rfl hs
      cases rest with
      | nil =>
        rw [List.nil_append] at hs
        have hblank := h 's' (by rw [hs]; rfl)
        exact absurd hblank (by decide)
      | cons d rest =>
        obtain ⟨rfl, -⟩ := List.cons.inj hs
        exact hother rest rfl rfl

/-- A row of possessives, or nothing. -/
def IsBare (cs : List Char) : Prop := ∃ k, cs = (List.replicate k ['\'', 's']).flatten

/-- **Nothing is left of a row of possessives**, and of nothing else. -/
theorem dropPossessives_eq_nil_iff : dropPossessives cs = [] ↔ IsBare cs := by
  constructor
  · intro h
    fun_induction dropPossessives cs with
    | case1 => exact ⟨0, rfl⟩
    | case2 rest hend ih =>
      obtain ⟨k, rfl⟩ := ih h
      exact ⟨k + 1, by rw [List.replicate_succ, List.flatten_cons]; rfl⟩
    | case3 => cases h
    | case4 => cases h
  · rintro ⟨k, rfl⟩
    induction k with
    | zero => rfl
    | succ k ih =>
      have hend : atWordEnd (List.replicate k ['\'', 's']).flatten = true := by
        cases k with
        | zero => rfl
        | succ k =>
          rw [List.replicate_succ, List.flatten_cons, List.cons_append, atWordEnd, isWordChar_quote]
          rfl
      rw [List.replicate_succ, List.flatten_cons, List.cons_append, List.cons_append,
        List.nil_append, dropPossessives, if_pos hend, ih]

end Restyle.Matching
