import Restyle.Matching.Ranking
import Restyle.Message
import Restyle.Proofs.Checked.Miss

/-!
# Matching without a miss

The edit distance takes its numbers from the places of two rows, and a similarity is a quotient of
lengths.  No place is beyond the end of its row, and no length that is divided by is zero.

* `longerRow_ok` — one row from the row before it.
* `bestMatch_ok`, `closeMatches_ok` — ranking.
* `mem_of_bestMatch?` — what is found is one of the candidates.
-/

set_option autoImplicit false

namespace Restyle.Checked

open Restyle.Matching Restyle.Text Restyle.Vocabulary

/-! ## Rows of distances -/

/-- From the distances of a text to every suffix of another one, those of one character more. -/
def longerRow (x : Char) : List Char → List Nat → Check (List Nat)
  | [], row => do
    let longer ← item row 0
    return [longer + 1]
  | y :: ys, row => do
    let deleted ← item row 0
    let kept ← item row 1
    let rest ← longerRow x ys row.tail
    let inserted ← item rest 0
    return min (min (deleted + 1) (inserted + 1)) (kept + if x = y then 0 else 1) :: rest

/-- The distances of a text to every suffix of another one. -/
def distanceRow (ys : List Char) : List Char → Check (List Nat)
  | [] => .ok (emptyRow ys)
  | x :: xs => do
    let row ← distanceRow ys xs
    longerRow x ys row

theorem length_emptyRow (ys : List Char) : (emptyRow ys).length = ys.length + 1 := by
  induction ys with
  | nil => rfl
  | cons y ys ih => rw [emptyRow, List.length_cons, ih, List.length_cons]

/-- **A row has a place for every suffix**, and so has the next one. -/
theorem longerRow_ok (x : Char) {ys : List Char} {row : List Nat}
    (h : row.length = ys.length + 1) :
    longerRow x ys row = .ok (Matching.longerRow x ys row) ∧
      (Matching.longerRow x ys row).length = ys.length + 1 := by
  induction ys generalizing row with
  | nil =>
    obtain ⟨d, rfl⟩ := List.length_eq_one_iff.1 h
    exact ⟨rfl, rfl⟩
  | cons y ys ih =>
    obtain ⟨d, row, rfl⟩ := List.exists_cons_of_length_eq_add_one h
    have hrow : row.length = ys.length + 1 := by simpa using h
    obtain ⟨e, row', rfl⟩ := List.exists_cons_of_length_eq_add_one hrow
    obtain ⟨hrest, hlength⟩ := ih hrow
    obtain ⟨f, rest, hf⟩ := List.exists_cons_of_length_eq_add_one hlength
    rw [hf] at hrest hlength
    have hstep : Matching.longerRow x (y :: ys) (d :: e :: row') =
        min (min (d + 1) (f + 1)) (e + if x = y then 0 else 1) :: f :: rest := by
      simp only [Matching.longerRow, hf]
    constructor
    · rw [hstep, longerRow, List.tail_cons, hrest]
      rfl
    · rw [hstep, List.length_cons, hlength, List.length_cons]

theorem distanceRow_ok (ys xs : List Char) :
    distanceRow ys xs = .ok (Matching.distanceRow ys xs) ∧
      (Matching.distanceRow ys xs).length = ys.length + 1 := by
  induction xs with
  | nil => exact ⟨rfl, length_emptyRow ys⟩
  | cons x xs ih =>
    obtain ⟨hrow, hlength⟩ := ih
    rw [distanceRow, hrow, ok_bind]
    exact longerRow_ok x hlength

/-- The edit distance of two texts. -/
def editDistance (a b : String) : Check Nat := do
  let row ← distanceRow b.toList a.toList
  item row 0

theorem editDistance_ok (a b : String) :
    editDistance a b = .ok (Matching.editDistance a b) := by
  obtain ⟨hrow, hlength⟩ := distanceRow_ok b.toList a.toList
  obtain ⟨d, rest, hd⟩ := List.exists_cons_of_length_eq_add_one hlength
  rw [editDistance, hrow, ok_bind, Matching.editDistance, editDistanceChars, hd]
  rfl

/-! ## Ranking -/

/-- The share of the longer text that is left unedited. -/
def similarity (ρ : Rounding) (a b : String) : Check Rat :=
  let longer := max a.length b.length
  if longer = 0 then .ok 1
  else do
    let distance ← editDistance (lower a) (lower b)
    let edited ← quotient distance longer
    return ρ (1 - ρ edited)

theorem similarity_ok (ρ : Rounding) (a b : String) :
    similarity ρ a b = .ok (Matching.similarity ρ a b) := by
  unfold similarity Matching.similarity
  dsimp only
  split
  · rfl
  · rename_i h
    have hne : ((max a.length b.length : Nat) : Rat) ≠ 0 := by exact_mod_cast h
    rw [editDistance_ok, ok_bind, quotient_ok hne, ok_bind, Rat.mkRat_eq_div]
    rfl

/-- The scores that a candidate earns. -/
def signals (ρ : Rounding) (limits : Limits) (text candidate : String) : Check (List Match) := do
  let name := lower candidate
  let distance ← editDistance text name
  let near ← if (distance : Int) ≤ limits.maxDistance then do
      let score ← similarity ρ text name
      pure [{ candidate, score := score }]
    else pure []
  return near ++
    (if limits.usePhonetic && soundsLike text name then
      [{ candidate, score := ρ soundScore, phonetic := true }] else []) ++
    (if 3 ≤ text.length && text.toList.isPrefixOf name.toList then
      [{ candidate, score := ρ prefixScore }] else [])

theorem signals_ok (ρ : Rounding) (limits : Limits) (text candidate : String) :
    signals ρ limits text candidate = .ok (Matching.signals ρ limits text candidate) := by
  unfold signals Matching.signals
  dsimp only
  rw [editDistance_ok, ok_bind]
  split
  · rw [similarity_ok]
    rfl
  · rfl

/-- The best candidate for a text. -/
def bestMatch (ρ : Rounding) (limits : Limits) (text : String) (candidates : List String) :
    Check (Option Match) :=
  let text := trim (lower text)
  match candidates.find? fun c => lower c == text with
  | some candidate => .ok (some { candidate, score := 1, exact := true })
  | none => do
    let earned ← candidates.mapM (signals ρ limits text)
    return match earned.flatten.foldl better none with
      | some best => if best.score < ρ limits.minSimilarity then none else some best
      | none => none

/-- **The best candidate is found without a miss.** -/
theorem bestMatch_ok (ρ : Rounding) (limits : Limits) (text : String) (candidates : List String) :
    bestMatch ρ limits text candidates = .ok (bestMatch? ρ limits text candidates) := by
  unfold bestMatch bestMatch?
  dsimp only
  cases candidates.find? fun c => lower c == trim (lower text) with
  | some candidate => rfl
  | none =>
    dsimp only
    rw [mapM_ok (signals_ok ρ limits _), ok_bind, List.flatMap_def]
    rfl

/-- A candidate as a suggestion. -/
def suggestion (ρ : Rounding) (minSimilarity : Rat) (text candidate : String) :
    Check (Option Match) := do
  let score ← similarity ρ text (lower candidate)
  let phonetic := soundsLike text candidate
  return if ρ minSimilarity ≤ score || phonetic then
      some {
        candidate
        score := if phonetic && decide (score < ρ suggestionFloor) then ρ suggestionFloor else score
        exact := score == 1
        phonetic }
    else none

theorem suggestion_ok (ρ : Rounding) (minSimilarity : Rat) (text candidate : String) :
    suggestion ρ minSimilarity text candidate =
      .ok (suggestion? ρ minSimilarity text candidate) := by
  rw [suggestion, similarity_ok]
  rfl

/-- The suggestions for a text, best first. -/
def closeMatches (ρ : Rounding) (text : String) (candidates : List String) (maxResults : Int)
    (minSimilarity : Rat) : Check (List Match) := do
  let found ← candidates.mapM (suggestion ρ minSimilarity (trim (lower text)))
  return leading maxResults
    ((found.filterMap id).mergeSort fun a b => decide (b.score ≤ a.score))

/-- **Suggestions are ranked without a miss.** -/
theorem closeMatches_ok (ρ : Rounding) (text : String) (candidates : List String)
    (maxResults : Int) (minSimilarity : Rat) :
    closeMatches ρ text candidates maxResults minSimilarity =
      .ok (Matching.closeMatches ρ text candidates maxResults minSimilarity) := by
  rw [closeMatches, mapM_ok (suggestion_ok ρ minSimilarity _), ok_bind, List.filterMap_map,
    Function.id_comp, pure_eq, Matching.closeMatches]

/-! ## Messages -/

/-- At most three suggestions for a text. -/
def suggestionsFor (text : String) (candidates : List String) : Check (List Match) :=
  closeMatches scoreRounding text candidates 3 Message.suggestionSimilarity

theorem suggestionsFor_ok (text : String) (candidates : List String) :
    suggestionsFor text candidates = .ok (Message.suggestionsFor text candidates) :=
  closeMatches_ok _ _ _ _ _

/-- A target that is not known. -/
def unknownTarget (term : String) : Check String := do
  let found ← suggestionsFor term targetWords.keys
  return Message.unknownTargetOr term found

theorem unknownTarget_ok (term : String) :
    unknownTarget term = .ok (Message.unknownTarget term) := by
  rw [unknownTarget, suggestionsFor_ok, ok_bind, pure_eq, Message.unknownTarget]

/-- A colour that is not known. -/
def unknownColor (value : String) : Check String := do
  let found ← suggestionsFor value colorWords.keys
  return Message.unknownColorOr value found

theorem unknownColor_ok (value : String) :
    unknownColor value = .ok (Message.unknownColor value) := by
  rw [unknownColor, suggestionsFor_ok, ok_bind, pure_eq, Message.unknownColor]

/-- A preset that does not exist. -/
def unknownPreset (name : String) : Check String := do
  let found ← suggestionsFor name (presets.map (·.name))
  return Message.unknownPresetOr name found

theorem unknownPreset_ok (name : String) :
    unknownPreset name = .ok (Message.unknownPreset name) := by
  rw [unknownPreset, suggestionsFor_ok, ok_bind, pure_eq, Message.unknownPreset]

/-- A command that was not understood, with general examples. -/
def unparseable (text : String) : Check String := do
  let examples ← entry Message.exampleCommands "general"
  return Message.unparseableBut text examples

theorem unparseable_ok (text : String) :
    unparseable text = .ok (Message.unparseable text) := by
  have hsome : (Message.exampleCommands.lookup "general").isSome = true := by decide +kernel
  obtain ⟨examples, he⟩ := Option.isSome_iff_exists.1 hsome
  rw [unparseable, entry_ok he, ok_bind, pure_eq, Message.unparseable, Message.examplesFor, he]
  rfl

/-! ## What is found -/

/-- Every score is that of its candidate, and no score makes a match exact. -/
theorem of_mem_signals {ρ : Rounding} {limits : Limits} {text candidate : String}
    {m : Match} (h : m ∈ Matching.signals ρ limits text candidate) :
    m.candidate = candidate ∧ m.exact = false := by
  unfold Matching.signals at h
  dsimp only at h
  rw [List.mem_append, List.mem_append] at h
  rcases h with (h | h) | h
  all_goals
    obtain ⟨-, hm⟩ := List.mem_ite_nil_right.1 h
    rw [List.mem_singleton.1 hm]
    exact ⟨rfl, rfl⟩

theorem mem_of_foldl_better {ms : List Match} {best : Option Match} {m : Match}
    (h : ms.foldl better best = some m) : m ∈ ms ∨ best = some m := by
  induction ms generalizing best with
  | nil => exact .inr h
  | cons a rest ih =>
    rcases ih h with hm | hm
    · exact .inl (List.mem_cons_of_mem a hm)
    · unfold better at hm
      split at hm
      · cases hm
        exact .inl List.mem_cons_self
      · split at hm
        · cases hm
          exact .inl List.mem_cons_self
        · exact .inr hm

/-- All that can be found: the exact match of a candidate that agrees with the text, or a score of
a candidate. -/
theorem bestMatch?_cases {ρ : Rounding} {limits : Limits} {text : String}
    {candidates : List String} {m : Match}
    (h : bestMatch? ρ limits text candidates = some m) :
    ∃ c ∈ candidates,
      (lower c = trim (lower text) ∧ m = { candidate := c, score := 1, exact := true }) ∨
        m ∈ Matching.signals ρ limits (trim (lower text)) c := by
  unfold bestMatch? at h
  dsimp only at h
  split at h
  · rename_i candidate hf
    cases h
    have hagrees := List.find?_some hf
    rw [beq_iff_eq] at hagrees
    exact ⟨candidate, List.mem_of_find?_eq_some hf, .inl ⟨hagrees, rfl⟩⟩
  · split at h
    · rename_i best hb
      split at h
      · cases h
      · cases h
        rcases mem_of_foldl_better hb with hm | hm
        · obtain ⟨candidate, hc, hs⟩ := List.mem_flatMap.1 hm
          exact ⟨candidate, hc, .inr hs⟩
        · cases hm
    · cases h

/-- **What is found is one of the candidates.** -/
theorem mem_of_bestMatch? {ρ : Rounding} {limits : Limits} {text : String}
    {candidates : List String} {m : Match}
    (h : bestMatch? ρ limits text candidates = some m) : m.candidate ∈ candidates := by
  obtain ⟨c, hc, ⟨-, rfl⟩ | hs⟩ := bestMatch?_cases h
  · exact hc
  · rw [(of_mem_signals hs).1]
    exact hc

end Restyle.Checked
