import Restyle.Proofs.Matching.WordByWord
import Restyle.Proofs.Target.Guess

/-!
# Words before a target

A target is looked for in the form in which terms are compared, and only what is said about it uses
the term as it was written.  So "the card" is what "card" is, within any limits.

* `map_definition_resolveTerm?` — the form of a term decides which definition is found.
* `resolveTerm?_determiner` — the definition of a term after a filler word.
-/

set_option autoImplicit false

namespace Restyle.Target

open Restyle.Matching Restyle.Text Restyle.Vocabulary

variable {ρ : Rounding} {limits : Limits}

/-! ## What is found -/

theorem map_definition_findExact? (s t form : String) :
    (findExact? s form).map Finding.definition = (findExact? t form).map Finding.definition := by
  cases hm : targetWords.meaning? form with
  | none => rw [findExact?_of_none hm, findExact?_of_none hm]
  | some name =>
    obtain ⟨d, hd⟩ := exists_definition hm
    rw [findExact?_of_meaning hm hd, findExact?_of_meaning hm hd, Option.map_some, Option.map_some]

theorem map_definition_findNear? (s t form : String) :
    (findNear? ρ limits s form).map Finding.definition =
      (findNear? ρ limits t form).map Finding.definition := by
  unfold findNear?
  simp only [Option.bind_eq_bind, Option.map_bind, Function.comp_def, Option.map_some]

/-- The form of a term decides which definition is found. -/
theorem map_definition_resolveTerm? {s t : String} (h : comparisonForm s = comparisonForm t) :
    (resolveTerm? ρ limits s).map Finding.definition =
      (resolveTerm? ρ limits t).map Finding.definition := by
  by_cases hempty : comparisonForm t = ""
  · rw [resolveTerm?_of_empty hempty, resolveTerm?_of_empty (h.trans hempty)]
  · have hother : comparisonForm s ≠ "" := by
      rw [h]
      exact hempty
    have hexact : Option.map Finding.definition ∘ findExact? s =
        Option.map Finding.definition ∘ findExact? t :=
      funext fun form => map_definition_findExact? s t form
    rw [resolveTerm?_eq_or hempty, resolveTerm?_eq_or hother, h, Option.map_or, Option.map_or,
      map_definition_findNear? s t, List.map_findSome?, List.map_findSome?, hexact]

/-- **Articles and determiners do not change the target**: after "the", "a", "an", "my", "our" or
"this", in whatever letter case, a term has the definition that it has without, or none. -/
theorem resolveTerm?_determiner (ρ : Rounding) (limits : Limits) {word : String}
    (h : word.toLower ∈ ["the", "a", "an", "my", "our", "this"]) (term : String) :
    (resolveTerm? ρ limits (word ++ " " ++ term)).map Finding.definition =
      (resolveTerm? ρ limits term).map Finding.definition :=
  map_definition_resolveTerm? (comparisonForm_determiner h term)

/-- A term that begins with a possessive, doubled white space and another filler word. -/
theorem resolveTerm?_determiner_sidebar :
    "ThIs".toLower ∈ ["the", "a", "an", "my", "our", "this"] ∧
      (resolveTerm? scoreRounding {} ("ThIs" ++ " " ++ "'s  my SIDBAR")).map Finding.definition =
        (resolveTerm? scoreRounding {} "'s  my SIDBAR").map Finding.definition ∧
      (resolveTerm? scoreRounding {} "'s  my SIDBAR").map (·.definition.token) =
        some "sidebar-background" := by
  have hword : "ThIs".toLower ∈ ["the", "a", "an", "my", "our", "this"] := by decide +kernel
  exact ⟨hword, resolveTerm?_determiner scoreRounding {} hword "'s  my SIDBAR", by decide +kernel⟩

end Restyle.Target
