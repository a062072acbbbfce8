import Restyle.Proofs.Interpreter.Reported
import Restyle.Proofs.Matching.BestMatch
import Restyle.Proofs.Numeric.Nearest

/-!
# Tolerances are nested

Words are looked up in two stages.  The first asks for what is known, whatever the tolerance.  The
second asks for the best match within the limits of the tolerance, and what it finds has a note.
The limits of a tolerance lie within those of the next one, so the second stage finds something
wherever it did before, though it may be something else.

* `Nested` — what is found within a tolerance is found within the next one.
* `nested_of_stages` — two stages are enough for it.
* `tolerances_nested` — values and targets are looked up so.
-/

set_option autoImplicit false

namespace Restyle.Interpreter

open Restyle.Change Restyle.Matching Restyle.Target Restyle.Text Restyle.Vocabulary

/-- A tolerance with the next wider one. -/
inductive Next : Tolerance → Tolerance → Prop
  | strict : Next .strict .default
  | default : Next .default .lenient

/-- A search finds something within a tolerance wherever it does within the one before, and what
is found without a note within one is found within all. -/
structure Nested {α : Type} (note : α → Option String) (search : Tolerance → Option α) : Prop where
  widens : ∀ {narrow wide : Tolerance}, Next narrow wide →
    (search narrow).isSome = true → (search wide).isSome = true
  settled : ∀ {t : Tolerance} {found : α}, search t = some found → note found = none →
    ∀ other, search other = some found

/-- A search is nested if it looks for what is known first, and what is near has a note. -/
theorem nested_of_stages {α : Type} {note : α → Option String} {search : Tolerance → Option α}
    (known : Option α) (near : Tolerance → Option α) (hstages : ∀ t, search t = known.or (near t))
    (hwidens : ∀ {narrow wide}, Next narrow wide →
      (near narrow).isSome = true → (near wide).isSome = true)
    (hnote : ∀ {t found}, known = none → near t = some found → note found ≠ none) :
    Nested note search where
  widens := by
    intro narrow wide hnext h
    rw [hstages, Option.isSome_or, Bool.or_eq_true] at h ⊢
    exact h.imp_right (hwidens hnext)
  settled := by
    intro t found hfound hsilent other
    cases hknown : known with
    | none =>
      rw [hstages, hknown, Option.none_or] at hfound
      exact absurd hsilent (hnote hknown hfound)
    | some f =>
      rw [hstages, hknown, Option.some_or] at hfound ⊢
      exact hfound

/-! ## Limits -/

variable {narrow wide : Tolerance}

theorem scoreRounding_mono : Monotone scoreRounding := fun _ _ h => Numeric.nearest_mono h

theorem Next.colorLimits (h : Next narrow wide) : Limits.Within
    ⟨narrow.thresholds.colorMaxDistance, narrow.thresholds.colorMinSimilarity,
      narrow.thresholds.usePhonetic⟩
    ⟨wide.thresholds.colorMaxDistance, wide.thresholds.colorMinSimilarity,
      wide.thresholds.usePhonetic⟩ := by
  cases h <;> constructor <;> norm_num [Tolerance.thresholds]

theorem Next.sizeLimits (h : Next narrow wide) :
    (sizeLimits narrow.thresholds).Within (sizeLimits wide.thresholds) := by
  cases h <;> constructor <;> norm_num [Interpreter.sizeLimits, Tolerance.thresholds]

theorem Next.targetLimits (h : Next narrow wide) :
    (targetLimits narrow.thresholds).Within (targetLimits wide.thresholds) := by
  cases h <;> constructor <;> norm_num [Interpreter.targetLimits, Tolerance.thresholds]

/-! ## Words that are near -/

/-- Whether a word is searched as it is written: it has small letters only, and no white space at
its ends. -/
def isSearched (word : String) : Bool :=
  isSmall word && decide (trimChars (byteChars word) = byteChars word)

theorem tableKey_of_isSearched {word : String} (h : isSearched word = true) :
    tableKey word = word := by
  rw [isSearched, Bool.and_eq_true, decide_eq_true_eq] at h
  rw [tableKey, lower_of_isSmall h.1, trim, toList_of_isSmall h.1, h.2, ← toList_of_isSmall h.1,
    String.ofList_toList]

variable {values : Table} {limits : Limits} {term word : String}

/-- Where something stands for every candidate, something is found wherever a candidate matches. -/
theorem isSome_bind_bestMatch? {α : Type} {ρ : Rounding} {candidates : List String}
    {f : Match → Option α} (h : ∀ m, m.candidate ∈ candidates → (f m).isSome = true) :
    ((bestMatch? ρ limits word candidates).bind f).isSome =
      (bestMatch? ρ limits word candidates).isSome := by
  cases hm : bestMatch? ρ limits word candidates with
  | none => rfl
  | some m => exact h m (Checked.mem_of_bestMatch? hm)

theorem findNearest?_isSome : (findNearest? values limits term word).isSome =
    (bestMatch? scoreRounding limits word values.keys).isSome := by
  unfold findNearest?
  refine isSome_bind_bestMatch? fun m hm => ?_
  obtain ⟨value, hv⟩ := Option.isSome_iff_exists.1 (has_iff_mem_keys.2 hm)
  simp [hv]

/-- What the tables of the scales say of their words. -/
theorem scales_rows : ∀ s ∈ scales,
    (∀ word ∈ s.aliases.keys ++ s.values.keys, isSearched word = true) ∧
      ∀ step ∈ s.aliases.map (·.2), s.values.has step = true := by
  decide +kernel

/-- Every word of a scale has a value. -/
theorem valueOfTerm?_isSome {s : Scale} (hs : s ∈ scales)
    (h : word ∈ s.aliases.keys ++ s.values.keys) : (s.valueOfTerm? word).isSome = true := by
  obtain ⟨hsearched, haliases⟩ := scales_rows s hs
  obtain ⟨step, hstep, hvalue⟩ : ∃ step, s.lookup? word = some step ∧
      s.values.has step = true := by
    unfold Scale.lookup?
    dsimp only
    rw [tableKey_of_isSearched (hsearched word h)]
    by_cases hown : s.values.has word = true
    · exact ⟨word, if_pos hown, hown⟩
    · have halias : word ∈ s.aliases.keys :=
        (List.mem_append.1 h).resolve_right (mt has_iff_mem_keys.2 hown)
      obtain ⟨step, hstep⟩ := Option.isSome_iff_exists.1 (has_iff_mem_keys.2 halias)
      exact ⟨step, (if_neg hown).trans hstep, haliases step (mem_values_of_lookup hstep)⟩
  obtain ⟨value, hv⟩ := Option.isSome_iff_exists.1 hvalue
  simp [Scale.valueOfTerm?, hstep, Scale.value?, hv]

/-- Every word for a target means a definition. -/
theorem exists_meaning (h : word ∈ targetWords.keys) :
    ∃ name d, targetWords.meaning? word = some name ∧ definition? name = some d := by
  have hsearched : ∀ word ∈ targetWords.keys, isSearched word = true := by decide +kernel
  obtain ⟨name, hname⟩ := Option.isSome_iff_exists.1 (has_iff_mem_keys.2 h)
  rw [← tableKey_of_isSearched (hsearched word h)] at hname
  obtain ⟨d, hd⟩ := exists_definition hname
  exact ⟨name, d, hname, hd⟩

theorem findNear?_isSome {ρ : Rounding} : (findNear? ρ limits term word).isSome =
    (bestMatch? ρ limits word targetWords.keys).isSome := by
  unfold findNear?
  refine isSome_bind_bestMatch? fun m hm => ?_
  obtain ⟨name, d, hname, hd⟩ := exists_meaning hm
  simp [hname, hd]

/-! ## What is looked up -/

/-- A table of values is searched so, if its words are in lower case and the limits lie within one
another. -/
theorem nested_values (values synonyms : Table) (limits : Tolerance → Limits)
    (hlimits : ∀ {narrow wide}, Next narrow wide → (limits narrow).Within (limits wide))
    (hlower : ∀ {word}, word ∈ values.keys → lower word = word) (text : String) :
    Nested Found.note fun t => (findKnown? values synonyms (tableKey text)).or
      (findNearest? values (limits t) text (tableKey text)) := by
  refine nested_of_stages _ _ (fun _ => rfl) ?_ ?_
  · intro narrow wide hnext h
    rw [findNearest?_isSome] at h ⊢
    exact bestMatch?_isSome_of_within scoreRounding_mono (hlimits hnext) h
  · intro t found hunknown h
    obtain ⟨known, -, hnote⟩ := findNearest?_note (tableKey_tableKey text) hlower hunknown h
    simp [hnote]

theorem nested_lookupColor (text : String) :
    Nested Found.note fun t => lookupColor t.thresholds text := by
  unfold lookupColor
  exact nested_values colorValues colorWords _ Next.colorLimits lower_of_colorValues text

theorem nested_lookupRadius (text : String) :
    Nested Found.note fun t => lookupRadius t.thresholds text := by
  unfold lookupRadius
  exact nested_values radiusValues radiusWords _ Next.sizeLimits lower_of_radiusValues text

/-- The value of the word of a scale that is nearest to a word. -/
def findNearestStep? (limits : Limits) (s : Scale) (term : String) : Option Found := do
  let m ← bestMatch? scoreRounding limits (tableKey term) (s.aliases.keys ++ s.values.keys)
  let (_, value) ← s.valueOfTerm? m.candidate
  some { value, note := some (guessNote term m.candidate) }

theorem lookupScale_eq (t : Thresholds) (s : Scale) (term : String) : lookupScale t s term =
    ((s.valueOfTerm? term).map fun found => { value := found.2 }).or
      (findNearestStep? (sizeLimits t) s term) := by
  unfold lookupScale findNearestStep?
  cases s.valueOfTerm? term <;> rfl

theorem findNearestStep?_isSome {s : Scale} (hs : s ∈ scales) :
    (findNearestStep? limits s term).isSome = (bestMatch? scoreRounding limits (tableKey term)
      (s.aliases.keys ++ s.values.keys)).isSome := by
  unfold findNearestStep?
  refine isSome_bind_bestMatch? fun m hm => ?_
  obtain ⟨value, hv⟩ := Option.isSome_iff_exists.1 (valueOfTerm?_isSome hs hm)
  simp [hv]

theorem nested_lookupScale {s : Scale} (hs : s ∈ scales) (text : String) :
    Nested Found.note fun t => lookupScale t.thresholds s text := by
  refine nested_of_stages _ _ (fun t => lookupScale_eq t.thresholds s text) ?_ ?_
  · intro narrow wide hnext h
    rw [findNearestStep?_isSome hs] at h ⊢
    exact bestMatch?_isSome_of_within scoreRounding_mono hnext.sizeLimits h
  · intro t found _ h
    unfold findNearestStep? at h
    simp only [Option.bind_eq_bind, Option.bind_eq_some_iff, Option.some_inj] at h
    obtain ⟨m, -, value, -, rfl⟩ := h
    simp

/-- This holds of exact fractions as well as of scores that are rounded. -/
theorem nested_resolveTerm {ρ : Rounding} (hρ : Monotone ρ) (text : String) :
    Nested Finding.note fun t => resolveTerm? ρ (targetLimits t.thresholds) text := by
  by_cases hempty : comparisonForm text = ""
  · simp only [resolveTerm?_of_empty hempty]
    exact ⟨fun _ h => h, nofun⟩
  · refine nested_of_stages _ _ (fun t => resolveTerm?_eq_or hempty) ?_ ?_
    · intro narrow wide hnext h
      rw [findNear?_isSome] at h ⊢
      exact bestMatch?_isSome_of_within hρ hnext.targetLimits h
    · intro t found hunknown h
      obtain ⟨name, -, hnote⟩ :=
        findNear?_note (unknown_of_findSome? hunknown _ (mem_lookupForms _)) h
      simp [hnote]

/-- **Tolerances are nested**: where a colour, a corner word, a size word or a target is found
within a tolerance, something is found within the next wider one, and what is found without a note
is found alike within all. -/
theorem tolerances_nested (text : String) :
    Nested Found.note (fun t => lookupColor t.thresholds text) ∧
      Nested Found.note (fun t => lookupRadius t.thresholds text) ∧
      (∀ s ∈ scales, Nested Found.note fun t => lookupScale t.thresholds s text) ∧
      Nested Finding.note fun t => resolveTerm? scoreRounding (targetLimits t.thresholds) text :=
  ⟨nested_lookupColor text, nested_lookupRadius text, fun _ hs => nested_lookupScale hs text,
    nested_resolveTerm scoreRounding_mono text⟩

/-- A misspelt size word: it is found within the default tolerance, and so within the lenient one,
but not within the strict one. -/
theorem tolerances_nested_tihgt :
    lookupScale Tolerance.strict.thresholds spacingScale "tihgt" = none ∧
      (lookupScale Tolerance.default.thresholds spacingScale "tihgt").isSome = true ∧
      (lookupScale Tolerance.lenient.thresholds spacingScale "tihgt").isSome = true := by
  have hdefault : (lookupScale Tolerance.default.thresholds spacingScale "tihgt").isSome = true := by
    decide +kernel
  obtain ⟨-, -, hscales, -⟩ := tolerances_nested "tihgt"
  exact ⟨by decide +kernel, hdefault,
    (hscales spacingScale (by simp [scales])).widens .default hdefault⟩

end Restyle.Interpreter
