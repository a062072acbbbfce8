import Restyle.Proofs.Command.Clean
import Restyle.Proofs.Command.Origin

/-!
# Fields of a command

Which fields a command has depends on its kind alone, whatever words it was read from.  No field
that is needed is missing, and the target and the value of a style command are not blank: no rule
captures white space alone, and an article is left out only where a word remains.

* `Filled` — text that is not blank, without white space at its ends.
* `Draft.WellFormed` — the fields of every kind.
* `Draft.Origin.wellFormed`, `parse_wellFormed` — every command of a text has them.
-/

set_option autoImplicit false

namespace Restyle.Command

open Restyle.Text Restyle.Vocabulary

variable {ws : Phrase} {d : Draft} {s : String}

/-! ## Filled texts -/

/-- Text that is not blank, without white space at its ends. -/
structure Filled (s : String) : Prop where
  trimmed : trim s = s
  present : ∃ c ∈ s.toList, isBlank c = false

theorem Filled.ne_empty (h : Filled s) : s ≠ "" := by
  rintro rfl
  obtain ⟨c, hc, -⟩ := h.present
  cases hc

theorem Filled.words_ne_nil (h : Filled s) : words s ≠ [] := by
  obtain ⟨c, hc, hsolid⟩ := h.present
  obtain ⟨w, hw, -⟩ := exists_mem_wordChars hsolid hc
  exact List.ne_nil_of_mem (List.mem_map_of_mem hw)

theorem filled_of_trimmed (ht : Trimmed s.toList) (hw : words s ≠ []) : Filled s where
  trimmed := by rw [trim, ht.trimChars_eq, String.ofList_toList]
  present := by
    cases hs : s.toList with
    | nil => exact absurd (by rw [words, hs]; rfl) hw
    | cons c rest => exact ⟨c, List.mem_cons_self, ht.head c (by rw [hs]; rfl)⟩

theorem filled_of_isWord (h : IsWord s.toList) : Filled s := by
  apply filled_of_trimmed h.trimmed
  rw [words_of_isWord h]
  exact List.cons_ne_nil s []

theorem filled_trim (h : words s ≠ []) : Filled (trim s) :=
  filled_of_trimmed (trimmed_trim s) (by rwa [words_trim])

theorem Filled.dropArticle (h : Filled s) : Filled (dropArticle s) := by
  have ht : Trimmed s.toList := h.trimmed ▸ trimmed_trim s
  exact filled_of_trimmed (trimmed_dropArticle ht) (words_dropArticle_ne_nil ht h.words_ne_nil)

theorem Phrase.Clean.filled (h : ws.Clean) (hne : ws ≠ []) : Filled ws.lowered :=
  filled_of_trimmed h.trimmed (h.words_ne_nil hne)

theorem filled_contextualTarget : Filled contextualTarget := by
  apply filled_of_isWord
  exact ⟨by decide, by decide⟩

/-- What a comparative asks for is a word. -/
theorem filled_comparativeOf? {word property : String} {direction : Direction}
    (h : comparativeOf? word = some (property, direction)) : Filled property := by
  have hwords : ∀ c ∈ comparatives, c.2.1 ≠ "" ∧ ∀ d ∈ c.2.1.toList, isBlank d = false := by
    decide +kernel
  obtain ⟨stem, -, hl⟩ := Option.bind_eq_some_iff.1 h
  obtain ⟨before, after, he, -⟩ := List.lookup_eq_some_iff.1 hl
  obtain ⟨hne, hsolid⟩ := hwords (stem, property, direction) (by simp [he])
  exact filled_of_isWord ⟨mt String.toList_eq_nil_iff.1 hne, hsolid⟩

/-- A shade is one word. -/
theorem filled_shade {shade color : String} (hs : IsWord shade.toList) (hc : IsWord color.toList) :
    Filled (shade ++ "-" ++ color) := by
  have hhyphen : isBlank '-' = false := by decide
  apply filled_of_isWord
  rw [String.toList_append, String.toList_append]
  refine ⟨?_, ?_⟩
  · simp
  · intro c hmem
    rcases List.mem_append.1 hmem with hmem | hmem
    · rcases List.mem_append.1 hmem with hmem | hmem
      · exact hs.solid c hmem
      · rw [List.mem_singleton.1 hmem]
        exact hhyphen
    · exact hc.solid c hmem

/-! ## Fields -/

/-- The fields of a command, by its kind. -/
structure Draft.WellFormed (d : Draft) : Prop where
  bare : d.kind ∈ [.unknown, .undo, .redo] → d.target = none ∧ d.value = none
  plain : d.kind ≠ .style → d.direction = none ∧ d.scope = none
  target : d.kind ∈ [.style, .visibility] → ∃ target, d.target = some target ∧ Filled target
  value : d.kind = .style → ∃ value, d.value = some value ∧ Filled value
  told : d.kind ∈ [.layout, .mode, .preset] → ∃ value, d.value = some value ∧ value ≠ ""

/-! ## Commands of other kinds -/

theorem presetPhrases_named : ∀ p ∈ presetPhrases, p.2 ≠ "" := by decide +kernel

/-- Nothing that is told is empty. -/
theorem Phrase.Tells.ne_empty {value : String} (h : ws.Tells value) (hclean : ws.Clean) :
    value ≠ "" := by
  cases h with
  | @word w hw => exact (filled_of_isWord (hclean w hw).word).ne_empty
  | part hpart hne => exact ((hclean.subset hpart).filled hne).ne_empty
  | @stem w hw ending stem value hknown hascii hfolded hlowered =>
    rintro rfl
    -- the word is the ending alone, which patterns see as it is
    have hending : w.lowered = ending := by rw [dropEnding?_eq_some hlowered, String.empty_append]
    rw [(hclean w hw).agrees (hending ▸ hascii), hlowered] at hfolded
    exact hknown (Option.some.inj hfolded).symm
  | @preset phrase _ hmeaning =>
    obtain ⟨before, after, he, -⟩ := List.lookup_eq_some_iff.1 hmeaning
    exact presetPhrases_named (tableKey phrase, value) (by simp [he])
  | text hown => exact hown

theorem Draft.Aside.wellFormed (h : d.Aside ws) (hclean : ws.Clean) : d.WellFormed := by
  cases h with
  | bare haside confidence =>
    simp only [List.mem_cons, List.not_mem_nil, or_false] at haside
    rcases haside with rfl | rfl | rfl <;> constructor <;> simp
  | told haside htells confidence =>
    have hne := htells.ne_empty hclean
    simp only [List.mem_cons, List.not_mem_nil, or_false] at haside
    rcases haside with rfl | rfl <;> constructor <;> simp [hne]
  | layout htells confidence =>
    have hne := htells.ne_empty hclean
    constructor <;> simp [layoutDraft, hne]
  | visibility hwithin hnamed value confidence =>
    have hfilled := ((hclean.subset hwithin).filled hnamed).dropArticle
    constructor <;> simp [visibilityDraft, hfilled]

/-! ## Style commands -/

theorem Draft.wellFormed_of_style (hkind : d.kind = .style)
    (ht : ∃ target, d.target = some target ∧ Filled target)
    (hv : ∃ value, d.value = some value ∧ Filled value) : d.WellFormed where
  bare h := by
    rw [hkind] at h
    exact absurd h (by decide)
  plain h := absurd hkind h
  target _ := ht
  value _ := hv
  told h := by
    rw [hkind] at h
    exact absurd h (by decide)

theorem wellFormed_styleDraft {target value : String} (ht : words target ≠ [])
    (hv : words value ≠ []) (direction : Option Direction) (confidence : Rat) :
    (styleDraft target value direction confidence).WellFormed := by
  refine Draft.wellFormed_of_style (styleDraft_kind _ _ _ _) ?_ ?_
  · cases styleDraft_about target value direction confidence with
    | selection contextual about scope => exact ⟨contextualTarget, about, filled_contextualTarget⟩
    | named own about scope => exact ⟨_, about, (filled_trim ht).dropArticle⟩
  · cases styleDraft_asks target value direction confidence with
    | said plain asked turned => exact ⟨_, asked, filled_trim hv⟩
    | comparative property step untold said asked turned =>
      exact ⟨property, asked, filled_comparativeOf? said⟩

/-- Both sides of an equals sign have a word: the phrase begins and ends with one. -/
theorem words_splitAtEquals? {target value : List Char} (hclean : ws.Clean)
    (h : splitAtEquals? ws.lowered.toList = some (target, value)) :
    words (String.ofList target) ≠ [] ∧ words (String.ofList value) ≠ [] := by
  obtain ⟨hcs, htarget, hvalue⟩ := splitAtEquals?_eq_some h
  have htrimmed := hclean.trimmed
  rw [hcs] at htrimmed
  have hwords : ∀ {cs : List Char} {c : Char}, c ∈ cs → isBlank c = false →
      words (String.ofList cs) ≠ [] := by
    intro cs c hc hsolid
    obtain ⟨w, hw, -⟩ := exists_mem_wordChars hsolid hc
    rw [words, String.toList_ofList]
    exact List.ne_nil_of_mem (List.mem_map_of_mem hw)
  constructor
  · obtain ⟨c, rest, rfl⟩ := List.exists_cons_of_ne_nil htarget
    exact hwords List.mem_cons_self (htrimmed.head c rfl)
  · have hlast := htrimmed.last_of_suffix
      ((List.suffix_cons '=' value).trans (List.suffix_append target _))
    exact hwords (List.getLast_mem hvalue) (hlast _ (List.getLast?_eq_some_getLast hvalue))

/-- What is said about the selection is not blank. -/
theorem Phrase.Says.filled {value : String} {direction : Option Direction}
    (h : ws.Says value direction) (hclean : ws.Clean) : Filled value := by
  cases h with
  | step hpart direction htold => exact (hclean.subset hpart).filled htold
  | comparative hword hsaid => exact filled_comparativeOf? hsaid
  | @color w hword hknown => exact filled_of_isWord (hclean w hword).word
  | @shade s w hshade hcolor => exact filled_shade (hclean s hshade).word (hclean w hcolor).word
  | colorWord hknown =>
    apply hclean.filled
    rintro rfl
    exact absurd hknown (by decide +kernel)

/-- **Every command of a phrase has the fields of its kind.** -/
theorem Draft.Origin.wellFormed (h : d.Origin ws) (hclean : ws.Clean) : d.WellFormed := by
  cases h with
  | other haside => exact haside.wellFormed hclean
  | parts hparts direction confidence =>
    exact wellFormed_styleDraft ((hclean.subset hparts.target).words_ne_nil hparts.named)
      ((hclean.subset hparts.value).words_ne_nil hparts.told) _ _
  | equation hcut confidence =>
    obtain ⟨htarget, hvalue⟩ := words_splitAtEquals? hclean hcut
    exact wellFormed_styleDraft htarget hvalue _ _
  | selection hsaid confidence =>
    exact Draft.wellFormed_of_style rfl ⟨_, rfl, filled_contextualTarget⟩
      ⟨_, rfl, hsaid.filled hclean⟩
  | comparative hphrase hsaid harticle =>
    obtain ⟨hpresent, hsuffix⟩ := afterArticle?_suffix harticle
    have htarget := hclean.subset (hsuffix.trans (hphrase ▸ List.suffix_cons _ _)).subset
    exact Draft.wellFormed_of_style rfl
      ⟨_, rfl, (htarget.filled (ne_nil_of_isPresent hpresent)).dropArticle⟩
      ⟨_, rfl, filled_comparativeOf? hsaid⟩
  | @guess target value hphrase confidence =>
    obtain ⟨htarget, hvalue⟩ := hphrase.mem
    exact Draft.wellFormed_of_style rfl
      ⟨_, rfl, (filled_of_isWord (hclean target htarget).word).dropArticle⟩
      ⟨_, rfl, filled_of_isWord (hclean value hvalue).word⟩

/-- **What a text is understood as has the fields of its kind.** -/
theorem parse_wellFormed {text : String} {i : Intent} (h : parse text = .ok i) :
    i.toDraft.WellFormed := (parse_origin h).wellFormed (clean_ofText text)

/-- The text of an intent is the text that was read. -/
theorem raw_of_parse {text : String} {i : Intent} (h : parse text = .ok i) : i.raw = text := by
  unfold parse at h
  cases hd : readPhrase (Phrase.ofText text) with
  | error e =>
    rw [hd] at h
    cases h
  | ok d =>
    rw [hd] at h
    cases h
    rfl

end Restyle.Command
