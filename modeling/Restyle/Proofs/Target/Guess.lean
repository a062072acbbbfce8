import Restyle.Proofs.Matching.Shortlist
import Restyle.Proofs.Text.Settled
import Restyle.Target.Resolve

/-!
# Guessed targets

A term is spelled correctly if the first of its forms that is known at all is not one of the
common misspellings.  Every other term that a definition is found for is a guess, and what it was
taken for is told.

* `isTermGuess` — whether a term is a guess.
* `resolveTerm?_note` — a note is given for guesses, and for guesses only.
* `resolve_note` — the same for commands.
-/

set_option autoImplicit false

namespace Restyle.Target

open Restyle.Command Restyle.Matching Restyle.Text Restyle.Vocabulary

variable {ρ : Rounding} {limits : Limits} {term form : String} {f : Finding}

/-- Whether a form of a term is known: a name of a target, a common misspelling of one, or the
name of a definition. -/
def isKnownForm (form : String) : Bool :=
  (targetWords.meaning? form).isSome || (definition? form).isSome

/-- Whether a term is not spelled as anything that is known, or as a common misspelling. -/
def isTermGuess (term : String) : Bool :=
  match (lookupForms (comparisonForm term)).find? isKnownForm with
  | some form => targetMisspellings.has (tableKey form)
  | none => true

/-- What is told about a term that was taken for a definition. -/
def TellsOf (term : String) (f : Finding) : Prop :=
  ∃ name, definition? name = some f.definition ∧ f.note = some (guessNote term name)

/-! ## Known forms -/

/-- What the table says of each word: it is in lower case, and it means a definition. -/
theorem targetWords_rows :
    ∀ entry ∈ targetWords, isSmall entry.1 = true ∧ (definition? entry.2).isSome = true := by
  decide +kernel

theorem lower_of_targetWords {word : String} (h : word ∈ targetWords.keys) : lower word = word := by
  obtain ⟨entry, hentry, rfl⟩ := List.mem_map.1 h
  exact lower_of_isSmall (targetWords_rows entry hentry).1

/-- The words that may match a text, found without decoding them. -/
theorem shortlist_targetWords (edits : Nat) (text : String) :
    shortlist edits text targetWords.keys =
      targetWords.keys.filter fun word => mayMatch edits text (byteChars word) := by
  refine List.filter_congr fun word hword => ?_
  obtain ⟨entry, hentry, rfl⟩ := List.mem_map.1 hword
  have hsmall := (targetWords_rows entry hentry).1
  rw [← toList_of_isSmall hsmall, ← String.toList_ofList (l := lowerChars _), ← lower,
    lower_of_isSmall hsmall]

theorem exists_definition {name : String} (h : targetWords.meaning? form = some name) :
    ∃ d, definition? name = some d := by
  obtain ⟨before, after, he, -⟩ := List.lookup_eq_some_iff.1 h
  exact Option.isSome_iff_exists.1 (targetWords_rows (tableKey form, name) (by simp [he])).2

theorem findExact?_of_meaning {name : String} {d : Definition}
    (hm : targetWords.meaning? form = some name) (hd : definition? name = some d) :
    findExact? term form = some ⟨d,
      if targetMisspellings.has (tableKey form) then some (guessNote term name) else none⟩ := by
  unfold findExact?
  simp only [hm, hd, Option.bind_eq_bind, Option.bind_some]

theorem findExact?_of_none (hm : targetWords.meaning? form = none) :
    findExact? term form = (definition? form).map fun d => ⟨d, none⟩ := by
  unfold findExact?
  rw [hm]
  rfl

/-- What is known is found, and nothing else. -/
theorem findExact?_isSome (term form : String) :
    (findExact? term form).isSome = isKnownForm form := by
  cases hm : targetWords.meaning? form with
  | none => simp [findExact?_of_none hm, isKnownForm, hm]
  | some name =>
    obtain ⟨d, hd⟩ := exists_definition hm
    simp [findExact?_of_meaning hm hd, isKnownForm, hm]

/-- A common misspelling is a word for a target. -/
theorem meaning?_ne_none (h : targetMisspellings.has (tableKey form) = true) :
    targetWords.meaning? form ≠ none := by
  rw [Table.has, List.lookup_isSome_iff] at h
  rw [Table.meaning?, targetWords, Ne, List.lookup_eq_none_iff]
  intro hnone
  obtain ⟨value, hm⟩ : ∃ value, (tableKey form, value) ∈ targetMisspellings := by
    simpa using h
  simpa using hnone _ (List.mem_append_right _ hm)

/-- A known form is told about if it is a common misspelling. -/
theorem findExact?_note (h : findExact? term form = some f) :
    (targetMisspellings.has (tableKey form) = true → TellsOf term f) ∧
      (targetMisspellings.has (tableKey form) = false → f.note = none) := by
  cases hm : targetWords.meaning? form with
  | none =>
    rw [findExact?_of_none hm] at h
    obtain ⟨d, -, rfl⟩ := Option.map_eq_some_iff.1 h
    exact ⟨fun hmis => absurd hm (meaning?_ne_none hmis), fun _ => rfl⟩
  | some name =>
    obtain ⟨d, hd⟩ := exists_definition hm
    rw [findExact?_of_meaning hm hd, Option.some_inj] at h
    subst h
    exact ⟨fun hmis => ⟨name, hd, by simp [hmis]⟩, fun hspelled => by simp [hspelled]⟩

/-! ## Names that are near -/

/-- What is found by comparison is told about: a form that agrees with a name is known. -/
theorem findNear?_note (hform : isKnownForm form = false)
    (h : findNear? ρ limits term form = some f) : TellsOf term f := by
  unfold findNear? at h
  simp only [Option.bind_eq_bind, Option.bind_eq_some_iff] at h
  obtain ⟨m, hm, d, hd, h⟩ := h
  have hinexact : m.exact = false := by
    rw [Bool.eq_false_iff]
    intro he
    have hkey := Checked.mem_of_bestMatch? hm
    have hagrees := lower_of_bestMatch? hm he
    rw [lower_of_targetWords hkey] at hagrees
    have hfound : targetWords.meaning? form ≠ none := by
      rw [Table.meaning?, tableKey, ← hagrees, Ne, List.lookup_eq_none_iff]
      intro hnone
      obtain ⟨entry, hentry, heq⟩ := List.mem_map.1 hkey
      simpa [heq] using hnone entry hentry
    simp only [isKnownForm, Bool.or_eq_false_iff, Option.isSome_eq_false_iff,
      Option.isNone_iff_eq_none] at hform
    exact hfound hform.1
  rw [Option.some_inj] at h
  subst h
  exact ⟨_, hd, by simp [hinexact]⟩

/-! ## Terms and commands -/

theorem isTermGuess_of_find {form : String}
    (h : (lookupForms (comparisonForm term)).find? isKnownForm = some form) :
    isTermGuess term = targetMisspellings.has (tableKey form) := by
  unfold isTermGuess
  rw [h]

/-- The first form that is known decides what is found. -/
theorem findSome?_findExact? (term : String) (forms : List String) :
    forms.findSome? (findExact? term) = (forms.find? isKnownForm).bind (findExact? term) := by
  induction forms with
  | nil => rfl
  | cons form rest ih =>
    rw [List.findSome?_cons, List.find?_cons, ← findExact?_isSome term form]
    cases hform : findExact? term form with
    | none => exact ih
    | some f => simp [hform]

/-- No form is known where none is found. -/
theorem unknown_of_findSome? {forms : List String} (h : forms.findSome? (findExact? term) = none) :
    ∀ form ∈ forms, isKnownForm form = false := by
  intro form hform
  rw [← findExact?_isSome term, List.findSome?_eq_none_iff.1 h form hform]
  rfl

theorem isTermGuess_of_findSome?
    (h : (lookupForms (comparisonForm term)).findSome? (findExact? term) = none) :
    isTermGuess term = true := by
  have hnone : (lookupForms (comparisonForm term)).find? isKnownForm = none := by
    rw [List.find?_eq_none]
    intro form hform
    simp [unknown_of_findSome? h form hform]
  unfold isTermGuess
  rw [hnone]

theorem mem_lookupForms (form : String) : form ∈ lookupForms form := by
  unfold lookupForms
  split <;> exact List.mem_cons_self

theorem resolveTerm?_of_empty (h : comparisonForm term = "") : resolveTerm? ρ limits term = none := by
  unfold resolveTerm?
  exact if_pos h

/-- A term is looked for among what is known, and then compared. -/
theorem resolveTerm?_eq_or (h : comparisonForm term ≠ "") : resolveTerm? ρ limits term =
    ((lookupForms (comparisonForm term)).findSome? (findExact? term)).or
      (findNear? ρ limits term (comparisonForm term)) := by
  unfold resolveTerm?
  dsimp only
  rw [if_neg h]
  cases (lookupForms (comparisonForm term)).findSome? (findExact? term) <;> rfl

/-- **A guess is told about, and nothing else is.** -/
theorem resolveTerm?_note (h : resolveTerm? ρ limits term = some f) :
    (isTermGuess term = true → TellsOf term f) ∧ (isTermGuess term = false → f.note = none) := by
  by_cases hempty : comparisonForm term = ""
  · rw [resolveTerm?_of_empty hempty] at h
    cases h
  · rw [resolveTerm?_eq_or hempty] at h
    rcases Option.or_eq_some_iff.1 h with hknown | ⟨hnone, hnear⟩
    · rw [findSome?_findExact?] at hknown
      obtain ⟨form, hfind, hexact⟩ := Option.bind_eq_some_iff.1 hknown
      rw [isTermGuess_of_find hfind]
      exact findExact?_note hexact
    · have hguess := isTermGuess_of_findSome? hnone
      exact ⟨fun _ => findNear?_note (unknown_of_findSome? hnone _ (mem_lookupForms _)) hnear,
        fun hn => by simp [hguess] at hn⟩

/-- Whether the target of a command is a guess. -/
def isTargetGuess (intent : Intent) : Bool :=
  !intent.isContextual && tableKey (intent.target.getD "") != "" &&
    isTermGuess (tableKey (intent.target.getD ""))

theorem note_resolveSelection (selection : Option Selection) :
    (resolveSelection selection).note = none := by
  unfold resolveSelection
  split <;> rfl

/-- **The binding of a command tells of a guess**: it has a note if and only if its target is
guessed, and the note gives the name of the definition that it is bound to. -/
theorem resolve_note {intent : Intent} {selection : Option Selection} {b : Binding}
    (h : resolve ρ limits intent selection = .ok b) :
    (isTargetGuess intent = true → ∃ name, definition? name = some b.definition ∧
      b.note = some (guessNote (tableKey (intent.target.getD "")) name)) ∧
    (isTargetGuess intent = false → b.note = none) := by
  unfold resolve at h
  unfold isTargetGuess
  dsimp only at h
  split at h
  · rename_i hcontextual
    cases h
    simp [hcontextual, note_resolveSelection]
  · rename_i hcontextual
    split at h
    · rename_i hempty
      split at h
      · cases h
        simp [hempty, note_resolveSelection]
      · cases h
        simp [hempty]
    · rename_i hpresent
      split at h
      · rename_i f hf
        cases h
        have hnote := resolveTerm?_note hf
        simpa [hcontextual, hpresent, TellsOf] using hnote
      · cases h

end Restyle.Target
