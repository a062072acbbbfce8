import Restyle.Proofs.Matching.Comparison
import Restyle.Proofs.Target.Guess

/-!
# Targets that are spelled exactly

Tables are searched for a term in comparison form as it is, with its final "color" and without.
So a definition is found without a note for exactly the terms of which a form is written in the
tables, the first such form being none of the common misspellings.

* `spelling?` — the form of a term that is written in the tables.
* `resolveTerm?_silent_iff` — what is found without a note, and what the note says otherwise.
* `spaces_left_by_ending` — white space before the ending is dropped with it.
-/

set_option autoImplicit false

namespace Restyle.Target

open Restyle.Command Restyle.Matching Restyle.Text Restyle.Vocabulary

variable {term form : String}

/-- Whether a form is written in the tables: as a name of a target, as a common misspelling of one,
or as the name of a definition. -/
def isSpelled (form : String) : Bool := targetWords.has form || (definition? form).isSome

/-- The first form of a term that is written in the tables. -/
def spelling? (term : String) : Option String :=
  (lookupForms (comparisonForm term)).find? isSpelled

/-! ## Forms of a term -/

/-- Tables are searched for each form of a term as it is. -/
theorem tableKey_of_mem_lookupForms (h : form ∈ lookupForms (comparisonForm term)) :
    tableKey form = form := by
  unfold lookupForms at h
  split at h
  · rename_i shorter hshorter
    rcases List.mem_pair.1 h with rfl | rfl
    · exact tableKey_comparisonForm term
    · -- what is left of the form are some of its characters
      unfold dropEnding? at hshorter
      obtain ⟨-, hs⟩ := Option.ite_none_right_eq_some.1 hshorter
      have hsettled : ∀ c ∈ (trim shorter).toList, Settled c.toNat := by
        intro c hc
        rw [trim, String.toList_ofList] at hc
        have hshort := (trimChars_isInfix _).subset hc
        rw [← Option.some.inj hs, String.toList_ofList] at hshort
        exact settled_comparisonForm term c (List.mem_of_mem_take hshort)
      rw [tableKey, lower_of_settled hsettled, trim_trim]
  · rw [List.mem_singleton.1 h]
    exact tableKey_comparisonForm term

theorem find?_isKnownForm (term : String) :
    (lookupForms (comparisonForm term)).find? isKnownForm = spelling? term := by
  rw [spelling?, ← List.head?_filter, ← List.head?_filter]
  refine congrArg List.head? (List.filter_congr fun form hform => ?_)
  rw [isKnownForm, Table.meaning?, tableKey_of_mem_lookupForms hform, isSpelled, Table.has]

theorem tableKey_of_spelling {c : String} (h : spelling? term = some c) : tableKey c = c := by
  unfold spelling? at h
  exact tableKey_of_mem_lookupForms (List.mem_of_find?_eq_some h)

/-- A term is no guess if it has a spelling that is not a common misspelling. -/
theorem isTermGuess_eq_false_iff : isTermGuess term = false ↔
    ∃ c, spelling? term = some c ∧ targetMisspellings.has c = false := by
  unfold isTermGuess
  rw [find?_isKnownForm]
  cases hspelling : spelling? term with
  | none => simp
  | some c => simp [tableKey_of_spelling hspelling]

/-! ## What is found -/

variable {ρ : Rounding} {limits : Limits}

theorem comparisonForm_ne_empty {c : String} (h : spelling? term = some c) :
    comparisonForm term ≠ "" := by
  intro hempty
  have hnone : (lookupForms "").find? isSpelled = none := by decide +kernel
  rw [spelling?, hempty, hnone] at h
  cases h

/-- A term that has a spelling is found under it. -/
theorem exists_resolveTerm? {c : String} (h : spelling? term = some c) :
    ∃ found, resolveTerm? ρ limits term = some found := by
  have hknown := h
  rw [← find?_isKnownForm] at hknown
  obtain ⟨found, hfound⟩ : ∃ found, findExact? term c = some found := by
    rw [← Option.isSome_iff_exists, findExact?_isSome]
    exact List.find?_some hknown
  rw [resolveTerm?_eq_or (comparisonForm_ne_empty h), findSome?_findExact?, hknown,
    Option.bind_some, hfound, Option.some_or]
  exact ⟨found, rfl⟩

/-- **A target is resolved silently only if it is spelled exactly**: a definition is found without
a note if and only if the term has a spelling that is not a common misspelling, and the note of
every other one says what the term was taken for. -/
theorem resolveTerm?_silent_iff (ρ : Rounding) (limits : Limits) (term : String) :
    ((∃ d, resolveTerm? ρ limits term = some ⟨d, none⟩) ↔
      ∃ c, spelling? term = some c ∧ targetMisspellings.has c = false) ∧
    ∀ found, resolveTerm? ρ limits term = some found →
      (¬∃ c, spelling? term = some c ∧ targetMisspellings.has c = false) → TellsOf term found := by
  rw [← isTermGuess_eq_false_iff, Bool.not_eq_false]
  refine ⟨⟨?_, ?_⟩, fun found h => (resolveTerm?_note h).1⟩
  · rintro ⟨d, h⟩
    rw [Bool.eq_false_iff]
    intro hguess
    obtain ⟨name, -, hnote⟩ := (resolveTerm?_note h).1 hguess
    cases hnote
  · intro hspelled
    obtain ⟨c, hc, -⟩ := isTermGuess_eq_false_iff.1 hspelled
    obtain ⟨⟨d, note⟩, h⟩ : ∃ found, resolveTerm? ρ limits term = some found :=
      exists_resolveTerm? hc
    obtain rfl : note = none := (resolveTerm?_note h).2 hspelled
    exact ⟨d, h⟩

/-- The forms of a term whose ending is dropped without the white space before it. -/
def formsBeforeEnding (term : String) : List String :=
  comparisonForm term :: (dropEnding? " color" (comparisonForm term)).toList

/-- **White space before the ending is dropped with it**: "card 's color" is found without a note,
though neither "card  color" nor "card " is written in the tables. -/
theorem spaces_left_by_ending :
    formsBeforeEnding "card 's color" = ["card  color", "card "] ∧
      ¬((∃ d, resolveTerm? scoreRounding {} "card 's color" = some ⟨d, none⟩) ↔
        ∃ c, (formsBeforeEnding "card 's color").find? isSpelled = some c ∧
          targetMisspellings.has c = false) := by
  have hforms : formsBeforeEnding "card 's color" = ["card  color", "card "] := by decide +kernel
  have hunspelled : ["card  color", "card "].find? isSpelled = none := by decide +kernel
  obtain ⟨⟨d, note⟩, hfound, hnote⟩ := Option.map_eq_some_iff.1
    (show (resolveTerm? scoreRounding {} "card 's color").map Finding.note = some none by
      decide +kernel)
  refine ⟨hforms, fun h => ?_⟩
  obtain ⟨c, hc, -⟩ := h.1 ⟨d, hnote ▸ hfound⟩
  rw [hforms, hunspelled] at hc
  cases hc

end Restyle.Target
