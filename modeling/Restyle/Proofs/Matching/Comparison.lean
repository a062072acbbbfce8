import Restyle.Matching.Comparison
import Restyle.Proofs.Text.Settled
import Restyle.Proofs.Text.Words

/-!
# Terms in the form in which they are compared

The form in which a term is compared has no characters but those of the term in lower case and
spaces, and none of its ends is white space.  So tables are searched for it as it is.  Fillers are
left out on both sides of white space, which stays where it is until all of them are.

* `dropFillers_subset`, `mem_squeezeChars`, `dropPossessives_subset` — the characters that are left.
* `tableKey_comparisonForm` — the form in which tables are searched.
* `dropFillers_append_cons` — fillers are left out on both sides of a character between words.
* `finished_cons_blank` — white space that a filler leaves at the front does not show.
-/

set_option autoImplicit false

namespace Restyle.Matching

open Restyle.Text Restyle.Vocabulary

/-! ## Characters of the form -/

theorem keepRun_subset (run : List Char) : keepRun run ⊆ run := by
  unfold keepRun
  split
  · exact List.nil_subset _
  · exact List.Subset.refl _

theorem dropFillersFrom_subset (pending cs : List Char) :
    dropFillersFrom pending cs ⊆ pending ++ cs := by
  have hrun : ∀ run : List Char, keepRun run.reverse ⊆ run := fun run =>
    List.Subset.trans (keepRun_subset _) (List.reverse_perm run).subset
  induction cs generalizing pending with
  | nil =>
    rw [dropFillersFrom, List.append_nil]
    exact hrun pending
  | cons c rest ih =>
    rw [dropFillersFrom]
    split
    · intro d hd
      have hmem := ih (c :: pending) hd
      simp only [List.mem_append, List.mem_cons] at hmem ⊢
      tauto
    · refine List.append_subset.2 ⟨List.subset_append_of_subset_left _ (hrun pending), ?_⟩
      exact List.subset_append_of_subset_right _ (List.cons_subset_cons c (ih []))

theorem dropFillers_subset (cs : List Char) : dropFillers cs ⊆ cs :=
  dropFillersFrom_subset [] cs

theorem mem_squeezeChars {c : Char} {cs : List Char} (h : c ∈ squeezeChars cs) :
    c ∈ cs ∨ c = ' ' := by
  fun_induction squeezeChars cs with
  | case1 => cases h
  | case2 d hd => exact .inr (List.mem_singleton.1 h)
  | case3 d hd e rest he ih => exact (ih h).imp_left (List.mem_cons_of_mem _)
  | case4 d hd e rest he ih =>
    rcases List.mem_cons.1 h with rfl | h
    · exact .inr rfl
    · exact (ih h).imp_left (List.mem_cons_of_mem _)
  | case5 d rest hd ih =>
    rcases List.mem_cons.1 h with rfl | h
    · exact .inl List.mem_cons_self
    · exact (ih h).imp_left (List.mem_cons_of_mem _)

theorem dropPossessives_subset (cs : List Char) : dropPossessives cs ⊆ cs := by
  fun_induction dropPossessives cs with
  | case1 => exact List.Subset.refl _
  | case2 rest hend ih =>
    exact List.subset_cons_of_subset _ (List.subset_cons_of_subset _ ih)
  | case3 rest hend ih => exact List.cons_subset_cons _ (List.cons_subset_cons _ ih)
  | case4 c rest _ ih => exact List.cons_subset_cons _ ih

/-- **The characters of a term in comparison form are in lower case.** -/
theorem settled_comparisonForm (s : String) : ∀ c ∈ (comparisonForm s).toList, Settled c.toNat := by
  intro c hc
  rw [comparisonForm, String.toList_ofList] at hc
  have hsqueezed := dropPossessives_subset _ ((trimChars_isInfix _).subset hc)
  rcases mem_squeezeChars hsqueezed with hmem | rfl
  · have hlowered := (trimChars_isInfix _).subset (dropFillers_subset _ hmem)
    exact settled_lowerFrom false _ c hlowered
  · exact settled_of_ascii (by decide) (by decide)

theorem trim_comparisonForm (s : String) : trim (comparisonForm s) = comparisonForm s := by
  rw [trim, comparisonForm, String.toList_ofList, comparisonChars,
    (trimmed_trimChars _).trimChars_eq]

/-- **Tables are searched for a term in comparison form as it is.** -/
theorem tableKey_comparisonForm (s : String) : tableKey (comparisonForm s) = comparisonForm s := by
  rw [tableKey, lower_of_settled (settled_comparisonForm s), trim_comparisonForm]

variable {gap : List Char} {c : Char}

/-! ## Fillers and white space -/

/-- White space stands between words. -/
theorem isWordChar_of_isBlank (h : isBlank c = true) : isWordChar c = false := by
  have hall : ∀ n ∈ blankPoints, isWordChar (Char.ofNat n) = false := by decide +kernel
  simpa using hall _ (mem_blankPoints h)

/-- Fillers are left out on both sides of a character between words. -/
theorem dropFillersFrom_append_cons (hc : isWordChar c = false) (pending cs ds : List Char) :
    dropFillersFrom pending (cs ++ c :: ds) =
      dropFillersFrom pending cs ++ c :: dropFillers ds := by
  induction cs generalizing pending with
  | nil =>
    rw [List.nil_append, dropFillersFrom, dropFillersFrom, hc]
    rfl
  | cons d rest ih =>
    rw [List.cons_append, dropFillersFrom, dropFillersFrom]
    split
    · exact ih (d :: pending)
    · rw [ih [], List.append_assoc, List.cons_append]

theorem dropFillers_append_cons (hc : isWordChar c = false) (cs ds : List Char) :
    dropFillers (cs ++ c :: ds) = dropFillers cs ++ c :: dropFillers ds :=
  dropFillersFrom_append_cons hc [] cs ds

/-- White space at the front of a text stays where it is. -/
theorem dropFillers_gap_append (hg : ∀ c ∈ gap, isBlank c = true) (cs : List Char) :
    dropFillers (gap ++ cs) = gap ++ dropFillers cs := by
  induction gap with
  | nil => rfl
  | cons b rest ih =>
    obtain ⟨hb, hrest⟩ := List.forall_mem_cons.1 hg
    have hfront := dropFillers_append_cons (isWordChar_of_isBlank hb) [] (rest ++ cs)
    rw [List.cons_append, List.cons_append, ← ih hrest]
    exact hfront

/-- Nothing is left of a filler word. -/
theorem dropFillers_filler : ∀ word ∈ fillers, dropFillers word.toList = [] := by decide +kernel

/-! ## What is done after fillers are left out -/

/-- What the comparison form does with a text without fillers. -/
def finished (cs : List Char) : List Char := trimChars (dropPossessives (squeezeChars cs))

/-- White space at the front does not show. -/
theorem finished_cons_blank (hc : isBlank c = true) (cs : List Char) :
    finished (c :: cs) = finished cs := by
  unfold finished
  cases cs with
  | nil =>
    have hspace : squeezeChars [c] = [' '] := by simp [squeezeChars, hc]
    rw [hspace]
    decide
  | cons d rest =>
    rw [squeezeChars, if_pos hc]
    split
    · rfl
    · -- a possessive does not begin with a space
      rw [dropPossessives, trimChars_cons_blank (by decide)]
      rintro rest hquote
      cases hquote

end Restyle.Matching
