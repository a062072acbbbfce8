import Restyle.Proofs.Matching.Possessives

/-!
# The form in which terms are compared, word by word

When fillers have been left out of a text, what is left of its words does not depend on the white
space between them: from each word its possessives are left out, and the words are put together with
single spaces.  So a filler word before a term is left out together with the white space after it,
whatever the term begins with.

* `comparisonChars_eq` — the form of a text from its words.
* `comparisonForm_determiner` — the form of a term after a filler word.
-/

set_option autoImplicit false

namespace Restyle.Matching

open Restyle.Text

variable {cs : List Char}

/-! ## The words of the form -/

/-- Possessives are left out word by word. -/
theorem dropPossessives_spaced (ws : List (List Char)) :
    dropPossessives (spaced ws) = spaced (ws.map dropPossessives) := by
  induction ws with
  | nil => rfl
  | cons w ws ih =>
    have hnext : ∀ c ∈ (spaced ws).head?, isBlank c = true := by
      cases ws with
      | nil => exact nofun
      | cons v ws =>
        rw [spaced_cons]
        rintro c hc
        exact Option.some.inj hc ▸ isBlank_space
    rw [List.map_cons, spaced_cons, spaced_cons, dropPossessives_cons (by decide),
      dropPossessives_append hnext, ih]

/-- A text without fillers is brought into the form word by word. -/
theorem finished_eq (cs : List Char) :
    finished cs = trimChars (spaced ((wordChars cs).map dropPossessives)) := by
  obtain ⟨gap, hgap, hsqueeze⟩ := squeezeChars_cons_space cs
  have hleft : ∀ c ∈ dropPossessives gap, isBlank c = true := fun c hc =>
    hgap c (dropPossessives_subset gap hc)
  have hnext : ∀ c ∈ gap.head?, isBlank c = true := fun c hc => hgap c (List.mem_of_mem_head? hc)
  rw [← finished_cons_blank isBlank_space, finished, hsqueeze, dropPossessives_append hnext,
    trimChars_append_blank hleft, dropPossessives_spaced]

/-- White space at the ends of a text does not change which words are left when fillers are left
out. -/
theorem wordChars_dropFillers_trimChars (cs : List Char) :
    wordChars (dropFillers (trimChars cs)) = wordChars (dropFillers cs) := by
  obtain ⟨front, back, hfront, hback, hcs⟩ := exists_gaps cs
  have hend : wordChars (dropFillers (trimChars cs ++ back)) =
      wordChars (dropFillers (trimChars cs)) := by
    cases back with
    | nil => rw [List.append_nil]
    | cons c rest =>
      obtain ⟨hc, hrest⟩ := List.forall_mem_cons.1 hback
      have hblank : ∀ d ∈ c :: dropFillers rest, isBlank d = true :=
        List.forall_mem_cons.2 ⟨hc, fun d hd => hrest d (dropFillers_subset rest hd)⟩
      rw [dropFillers_append_cons (isWordChar_of_isBlank hc), wordChars_append_blank hblank]
  conv_rhs => rw [hcs]
  rw [List.append_assoc, dropFillers_gap_append hfront, wordChars_gap_append hfront, hend]

/-- **A text is brought into the form word by word** when fillers have been left out of it. -/
theorem comparisonChars_eq (cs : List Char) : comparisonChars cs =
    trimChars (spaced ((wordChars (dropFillers (lowerChars cs))).map dropPossessives)) := by
  have hfinished : comparisonChars cs = finished (dropFillers (trimChars (lowerChars cs))) := rfl
  rw [hfinished, finished_eq, wordChars_dropFillers_trimChars]

theorem solid_dropPossessives : ∀ w ∈ (wordChars cs).map dropPossessives,
    ∀ c ∈ w, isBlank c = false := by
  intro w hw c hc
  obtain ⟨v, hv, rfl⟩ := List.mem_map.1 hw
  exact (isWord_of_mem_wordChars hv).solid c (dropPossessives_subset v hc)

/-! ## A word before a term -/

/-- A word in ASCII before white space is lowered on its own. -/
theorem lowerFrom_append_space {word : List Char} (h : ∀ c ∈ word, c.toNat < 0x80) (after : Bool)
    (cs : List Char) :
    lowerFrom after (word ++ ' ' :: cs) = word.map Char.toLower ++ ' ' :: lowerChars cs := by
  induction word generalizing after with
  | nil =>
    have hspace : isCaseIgnorable ' ' = false ∧ isCased ' ' = false := by decide +kernel
    rw [List.nil_append, lowerFrom, hspace.1, hspace.2]
    rfl
  | cons c rest ih =>
    obtain ⟨hc, hrest⟩ := List.forall_mem_cons.1 h
    rw [List.cons_append, lowerFrom, if_neg (by omega), lowerChar, if_pos hc, ih hrest]
    rfl

/-- Only ASCII letters are changed when the others are left alone. -/
theorem ascii_of_toLower {c : Char} (h : c.toLower.toNat < 0x80) : c.toNat < 0x80 := by
  rcases toLower_cases c with ⟨-, hh, -⟩ | ⟨-, he⟩
  · omega
  · rwa [he] at h

theorem ascii_fillers : ∀ word ∈ fillers, ∀ c ∈ word.toList, c.toNat < 0x80 := by decide +kernel

/-- **A filler word before a term**, in whatever letter case, does not show in the form in which the
term is compared: what is left of both are the same words. -/
theorem comparisonForm_determiner {word : String} (h : word.toLower ∈ fillers) (term : String) :
    comparisonForm (word ++ " " ++ term) = comparisonForm term := by
  have hlow : word.toLower = String.ofList (word.toList.map Char.toLower) := by
    rw [← String.toList_map, String.ofList_toList]
    rfl
  have hascii : ∀ c ∈ word.toList, c.toNat < 0x80 := by
    intro c hc
    apply ascii_of_toLower
    refine ascii_fillers _ h c.toLower ?_
    rw [hlow, String.toList_ofList]
    exact List.mem_map_of_mem hc
  have hnothing : dropFillers (word.toList.map Char.toLower) = [] := by
    simpa [hlow] using dropFillers_filler _ h
  have hchars : (word ++ " " ++ term).toList = word.toList ++ ' ' :: term.toList := by
    simp [String.toList_append]
  have hwords : wordChars (dropFillers (lowerChars (word ++ " " ++ term).toList)) =
      wordChars (dropFillers (lowerChars term.toList)) := by
    rw [hchars, lowerChars, lowerFrom_append_space hascii,
      dropFillers_append_cons (isWordChar_of_isBlank isBlank_space), hnothing, List.nil_append,
      wordChars_cons_blank isBlank_space]
  rw [comparisonForm, comparisonForm, comparisonChars_eq, comparisonChars_eq, hwords]

end Restyle.Matching
