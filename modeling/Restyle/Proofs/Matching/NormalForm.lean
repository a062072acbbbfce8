import Restyle.Proofs.Matching.Runs
import Restyle.Proofs.Matching.WordByWord

/-!
# How normal the form is in which terms are compared

White space is made single spaces before possessives are left out, and not again after that.  So a
word that is made of possessives alone leaves the spaces on both its sides, and if it stood between
other words, these are next to each other.  In everything else the form is normal: none of its ends
is white space, no filler word stands alone in it, and no possessive is left.  Doing it a second time
puts the spaces right.

* `Orphaned` — a word of possessives alone stands between other words.
* `comparisonChars_comparisonChars` — what is done the second time.
* `comparisonForm_normal` — how normal the form is, exactly.
* `doubled_space_left` — a form that is not normal.
-/

set_option autoImplicit false

namespace Restyle.Matching

open Restyle.Text

variable {cs : List Char} {ws : List (List Char)}

/-! ## What is normal -/

theorem trimmed_comparisonChars (cs : List Char) : Trimmed (comparisonChars cs) :=
  trimmed_trimChars _

/-- No run of the form is a filler. -/
theorem not_filler_comparisonChars (cs : List Char) :
    ∀ run ∈ runs (comparisonChars cs), String.ofList run ∉ fillers := fun run hrun =>
  not_filler_of_mem_runs (trimChars (lowerChars cs)) run
    (runs_squeezeChars _ (runs_dropPossessives _ (runs_trimChars _ hrun)))

/-- **No filler word stands alone in the form.** -/
theorem not_standsAlone_comparisonChars (cs : List Char) :
    ∀ word ∈ fillers, ¬StandsAlone word.toList (comparisonChars cs) := by
  intro word hword hstands
  have hrun := mem_runs_of_standsAlone (isWordChar_of_mem_fillers word hword) hstands
  refine not_filler_comparisonChars cs _ hrun ?_
  rwa [String.ofList_toList]

/-- **No possessive stands in the form.** -/
theorem not_hasPossessive_comparisonChars (cs : List Char) :
    ¬HasPossessive (comparisonChars cs) := fun h =>
  not_hasPossessive_dropPossessives _ (hasPossessive_of_trimChars h)

/-- All white space of the form are spaces. -/
theorem space_of_mem_comparisonChars {c : Char} (h : c ∈ comparisonChars cs)
    (hc : isBlank c = true) : c = ' ' := by
  rw [comparisonChars_eq] at h
  rcases mem_spaced ((trimChars_isInfix _).subset h) with hspace | ⟨w, hw, hcw⟩
  · exact hspace
  · rw [solid_dropPossessives w hw c hcw] at hc
    cases hc

/-! ## White space next to white space -/

/-- A word that is made of possessives alone stands between others. -/
def Orphaned (ws : List (List Char)) : Prop :=
  ∃ before w after, ws = before ++ w :: after ∧ IsBare w ∧
    (∃ u ∈ before, ¬IsBare u) ∧ ∃ v ∈ after, ¬IsBare v

theorem exists_map_dropPossessives_ne_nil :
    (∃ w ∈ ws.map dropPossessives, w ≠ []) ↔ ∃ w ∈ ws, ¬IsBare w := by
  simp only [List.mem_map, exists_exists_and_eq_and, ne_eq, dropPossessives_eq_nil_iff]

theorem orphaned_iff : Orphaned ws ↔ ∃ us vs, ws.map dropPossessives = us ++ [] :: vs ∧
    (∃ u ∈ us, u ≠ []) ∧ ∃ v ∈ vs, v ≠ [] := by
  constructor
  · rintro ⟨before, w, after, rfl, hbare, hbefore, hafter⟩
    refine ⟨before.map dropPossessives, after.map dropPossessives, ?_,
      exists_map_dropPossessives_ne_nil.2 hbefore, exists_map_dropPossessives_ne_nil.2 hafter⟩
    rw [List.map_append, List.map_cons, dropPossessives_eq_nil_iff.2 hbare]
  · rintro ⟨us, vs, hsplit, hus, hvs⟩
    obtain ⟨before, rest, rfl, rfl, hrest⟩ := List.map_eq_append_iff.1 hsplit
    obtain ⟨w, after, rfl, hbare, rfl⟩ := List.map_eq_cons_iff.1 hrest
    exact ⟨before, w, after, rfl, dropPossessives_eq_nil_iff.1 hbare,
      exists_map_dropPossessives_ne_nil.1 hus, exists_map_dropPossessives_ne_nil.1 hvs⟩

/-- **White space is next to white space only where a word of possessives stood between others.** -/
theorem hasDoubledBlank_comparisonChars (cs : List Char) :
    HasDoubledBlank (comparisonChars cs) ↔ Orphaned (wordChars (dropFillers (lowerChars cs))) := by
  rw [comparisonChars_eq, hasDoubledBlank_trimChars_spaced solid_dropPossessives, orphaned_iff]

/-! ## Doing it again -/

/-- **The second time only white space is squeezed.** -/
theorem comparisonChars_comparisonChars (cs : List Char) :
    comparisonChars (comparisonChars cs) = trimChars (squeezeChars (comparisonChars cs)) := by
  have hsettled : ∀ c ∈ comparisonChars cs, Settled c.toNat := by
    intro c hc
    have hform := settled_comparisonForm (String.ofList cs)
    rw [comparisonForm, String.toList_ofList, String.toList_ofList] at hform
    exact hform c hc
  have hunowned : ¬HasPossessive (squeezeChars (comparisonChars cs)) := fun h =>
    not_hasPossessive_comparisonChars cs (hasPossessive_of_squeezeChars h)
  conv_lhs => rw [comparisonChars]
  rw [lowerChars, lowerFrom_of_settled hsettled, (trimmed_comparisonChars cs).trimChars_eq,
    dropFillers_of_runs (not_filler_comparisonChars cs), dropPossessives_of_not hunowned]

/-- The form is left alone if its spaces are single. -/
theorem comparisonChars_of_single (h : ¬HasDoubledBlank (comparisonChars cs)) :
    comparisonChars (comparisonChars cs) = comparisonChars cs := by
  rw [comparisonChars_comparisonChars,
    squeezeChars_of_not (fun c hc => space_of_mem_comparisonChars hc) h,
    (trimmed_comparisonChars cs).trimChars_eq]

/-- After the second time spaces are single. -/
theorem single_comparisonChars_comparisonChars (cs : List Char) :
    ¬HasDoubledBlank (comparisonChars (comparisonChars cs)) := by
  rw [comparisonChars_comparisonChars]
  exact fun h => not_hasDoubledBlank_squeezeChars _ h.of_trimChars

theorem comparisonForm_eq_iff {s t : String} :
    comparisonForm s = comparisonForm t ↔ comparisonChars s.toList = comparisonChars t.toList :=
  String.ofList_inj

/-- **How normal the form is in which a term is compared**: it is trimmed, no filler word stands
alone in it, and no possessive is left.  It has white space next to white space exactly if a word
made of possessives alone stands between others when fillers are left out, and exactly then doing it
again changes it, once. -/
theorem comparisonForm_normal (s : String) :
    Trimmed (comparisonForm s).toList ∧
    (∀ word ∈ fillers, ¬StandsAlone word.toList (comparisonForm s).toList) ∧
    ¬HasPossessive (comparisonForm s).toList ∧
    (HasDoubledBlank (comparisonForm s).toList ↔
      Orphaned (wordChars (dropFillers (lowerChars s.toList)))) ∧
    (comparisonForm (comparisonForm s) = comparisonForm s ↔
      ¬HasDoubledBlank (comparisonForm s).toList) ∧
    comparisonForm (comparisonForm (comparisonForm s)) = comparisonForm (comparisonForm s) := by
  have hchars (t : String) : (comparisonForm t).toList = comparisonChars t.toList :=
    String.toList_ofList
  have hsingle := single_comparisonChars_comparisonChars s.toList
  simp only [comparisonForm_eq_iff, hchars]
  refine ⟨trimmed_comparisonChars _, not_standsAlone_comparisonChars _,
    not_hasPossessive_comparisonChars _, hasDoubledBlank_comparisonChars _, ⟨?_, ?_⟩, ?_⟩
  · intro hagain
    rwa [hagain] at hsingle
  · exact comparisonChars_of_single
  · exact comparisonChars_of_single hsingle

/-- **A possessive on its own leaves two spaces**, and the second time they become one. -/
theorem doubled_space_left :
    ¬(¬HasDoubledBlank (comparisonForm "card 's color").toList ∧
      comparisonForm (comparisonForm "card 's color") = comparisonForm "card 's color") := by
  have hform : comparisonForm "card 's color" = "card  color" := by decide +kernel
  rintro ⟨hsingle, -⟩
  rw [hform] at hsingle
  exact hsingle ⟨' ', ' ', isBlank_space, isBlank_space, "card".toList, "color".toList, rfl⟩

end Restyle.Matching
