import Restyle.Matching.Ranking
import Restyle.Proofs.Matching.Edits

/-!
# Candidates that cannot match

Most candidates earn no score: they are too many edits away from a text, begin with a letter of
another sound, and do not begin with the text.  The best match is found among the others.

* `mayMatch` — a quick test that the name of every candidate with a score passes.
* `bestMatch?_shortlist` — the best match is that of the candidates that pass it.
* `lower_of_bestMatch?` — what an exact match agrees with.
-/

set_option autoImplicit false

namespace Restyle.Matching

open Restyle.Text

/-- The sound codes of texts that sound alike, which need not be put together to compare them. -/
theorem soundCodeChars_eq {a b : String} (h : soundsLike a b = true) :
    soundCodeChars (soundLetters a.toList) = soundCodeChars (soundLetters b.toList) := by
  simp only [soundsLike, Bool.and_eq_true, bne_iff_ne, beq_iff_eq] at h
  exact String.ofList_injective h.2

/-- Whether a candidate may earn a score for a text: it is at most so many edits away, sounds like
the text, or begins with it.  The text and the name of the candidate are in lower case. -/
def mayMatch (edits : Nat) (text : String) (name : List Char) : Bool :=
  isNear edits text.toList name ||
    soundCodeChars (soundLetters text.toList) == soundCodeChars (soundLetters name) ||
    text.toList.isPrefixOf name

/-- The candidates that may earn a score. -/
def shortlist (edits : Nat) (text : String) (candidates : List String) : List String :=
  candidates.filter fun c => mayMatch edits text (lowerChars c.toList)

variable {ρ : Rounding} {limits : Limits} {edits : Nat} {text : String}

/-- A candidate earns nothing when each of the three signals fails. -/
theorem signals_eq_nil_of {candidate : String}
    (hfar : ¬(editDistance text (lower candidate) : Int) ≤ limits.maxDistance)
    (hunlike : (limits.usePhonetic && soundsLike text (lower candidate)) = false)
    (hbegin : text.toList.isPrefixOf (lower candidate).toList = false) :
    signals ρ limits text candidate = [] := by
  simp [signals, hfar, hunlike, hbegin]

/-- A candidate that fails the test earns nothing. -/
theorem signals_eq_nil (hedits : limits.maxDistance ≤ edits) {candidate : String}
    (h : mayMatch edits text (lowerChars candidate.toList) = false) :
    signals ρ limits text candidate = [] := by
  simp only [mayMatch, Bool.or_eq_false_iff] at h
  obtain ⟨⟨hnear, hsound⟩, hprefix⟩ := h
  have hname : (lower candidate).toList = lowerChars candidate.toList := String.toList_ofList
  have hfar : ¬(editDistance text (lower candidate) : Int) ≤ limits.maxDistance := by
    intro hle
    have hclose : isNear edits text.toList (lowerChars candidate.toList) = true := by
      rw [isNear_iff, ← hname]
      rw [editDistance] at hle
      omega
    simp [hclose] at hnear
  have hother : soundsLike text (lower candidate) = false := by
    rw [Bool.eq_false_iff]
    intro hlike
    simp [soundCodeChars_eq hlike, hname] at hsound
  refine signals_eq_nil_of hfar ?_ (hname ▸ hprefix)
  rw [hother, Bool.and_false]

/-- A candidate that agrees with the text passes the test. -/
theorem mayMatch_of_eq {candidate : String} (h : lower candidate = text) :
    mayMatch edits text (lowerChars candidate.toList) = true := by
  have hnear : isNear edits text.toList (lowerChars candidate.toList) = true := by
    rw [isNear_iff, ← h, lower, String.toList_ofList, editDistanceChars_eq_zero.2 rfl]
    exact Nat.zero_le edits
  simp [mayMatch, hnear]

theorem find?_shortlist (candidates : List String) :
    (shortlist edits text candidates).find? (fun c => lower c == text) =
      candidates.find? fun c => lower c == text := by
  rw [shortlist, List.find?_filter]
  congr 1
  funext c
  by_cases hc : lower c = text
  · simp [hc, mayMatch_of_eq hc]
  · simp [hc]

theorem signals_shortlist (hedits : limits.maxDistance ≤ edits) (candidates : List String) :
    (shortlist edits text candidates).flatMap (signals ρ limits text) =
      candidates.flatMap (signals ρ limits text) := by
  rw [shortlist]
  induction candidates with
  | nil => rfl
  | cons c rest ih =>
    cases hc : mayMatch edits text (lowerChars c.toList) with
    | true => simp [hc, ih]
    | false => simp [hc, ih, signals_eq_nil hedits hc]

/-- **The best match of a text is that of the candidates that pass the test.** -/
theorem bestMatch?_shortlist (edits : Nat) (hedits : limits.maxDistance ≤ edits)
    (candidates : List String) :
    bestMatch? ρ limits text candidates =
      bestMatch? ρ limits text (shortlist edits (trim (lower text)) candidates) := by
  unfold bestMatch?
  dsimp only
  rw [find?_shortlist, signals_shortlist hedits]

/-! ## Exact matches -/

/-- **A match is exact only with a candidate that agrees with the text.** -/
theorem lower_of_bestMatch? {candidates : List String} {m : Match}
    (h : bestMatch? ρ limits text candidates = some m) (he : m.exact = true) :
    lower m.candidate = trim (lower text) := by
  obtain ⟨c, -, ⟨hagrees, rfl⟩ | hs⟩ := Checked.bestMatch?_cases h
  · exact hagrees
  · rw [(Checked.of_mem_signals hs).2] at he
    cases he

end Restyle.Matching
