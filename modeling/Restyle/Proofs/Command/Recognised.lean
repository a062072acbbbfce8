import Restyle.Proofs.Command.Clean
import Restyle.Proofs.Command.Origin
import Restyle.Proofs.Command.Phrasings

/-!
# Words for the selection, and comparatives

A style command is about the selection where its target is a word such as "it", and a comparative
such as "rounder" is a direction.  Where a command is put together from a target and a value both
are recognised.  A comparative before its target, and a guess, are put together by hand: there a
word for the selection is left as a name, and the guess leaves a comparative as a value.

* `Phrase.OverlooksSelection`, `Phrase.OverlooksComparative` — where they do.
* `parse_recognised` — what every other style command has.
* `rounder_overlooked` — a text in which both are.
-/

set_option autoImplicit false

namespace Restyle.Command

open Restyle.Text Restyle.Vocabulary

variable {ws rest : Phrase} {d : Draft}

/-! ## Articles -/

theorem afterArticle?_cases {ok : Phrase → Bool} (h : Phrase.afterArticle? ok ws = some rest) :
    ws = rest ∨ ∃ a : Word, a.folded = "the" ∧ ws = a :: rest := by
  rcases List.mem_append.1 (List.mem_of_find?_eq_some h) with hm | hm
  · obtain ⟨o, ho, ha⟩ := List.mem_filterMap.1 hm
    obtain rfl := List.mem_singleton.1 ho
    cases ws with
    | nil => cases ha
    | cons a ws =>
      rw [Phrase.after?] at ha
      obtain ⟨hfolded, hrest⟩ := Option.ite_none_right_eq_some.1 ha
      cases hrest
      exact .inr ⟨a, by simpa using hfolded, rfl⟩
  · exact .inl (List.mem_singleton.1 hm).symm

/-! ## Comparatives -/

/-- The words that are comparatives. -/
def comparativeWords : List String := comparatives.map fun c => c.1 ++ "er"

theorem mem_comparativeWords {word : String} (h : (comparativeOf? word).isSome = true) :
    word ∈ comparativeWords := by
  obtain ⟨meaning, h⟩ := Option.isSome_iff_exists.1 h
  obtain ⟨stem, hs, hl⟩ := Option.bind_eq_some_iff.1 h
  obtain ⟨before, after, he, -⟩ := List.lookup_eq_some_iff.1 hl
  rw [dropEnding?_eq_some hs]
  exact List.mem_map.2 ⟨(stem, meaning), by simp [he], rfl⟩

theorem comparativeWords_ascii : ∀ w ∈ comparativeWords, ∀ c ∈ w.toList, c.toNat < 0x80 := by
  decide +kernel

theorem comparativeWords_no_hyphen : ∀ w ∈ comparativeWords, '-' ∉ w.toList := by decide +kernel

theorem comparativeWords_no_color : ∀ w ∈ comparativeWords, w ∉ bareColors := by decide +kernel

theorem comparative?_of_settled {value : String} (h : ∀ c ∈ value.toList, Settled c.toNat) :
    comparative? value = comparativeOf? (trim value) := by
  rw [comparative?, lower_of_settled h]

theorem Word.Clean.comparative? {w : Word} (h : w.Clean) :
    comparative? w.lowered = comparativeOf? w.lowered := by
  rw [comparative?_of_settled h.settled, h.word.trim_eq]

theorem comparativeOf?_eq_none {word : String} (h : word ∉ comparativeWords) :
    comparativeOf? word = none := by
  rw [← Option.not_isSome_iff_eq_none]
  exact fun hs => h (mem_comparativeWords hs)

/-! ## What is overlooked -/

/-- A word for the selection that is left as a name. -/
inductive Phrase.OverlooksSelection (ws : Phrase) : Prop
  /-- It stands after a comparative, perhaps with articles between them. -/
  | comparative {w c : Word} {articles : Phrase} (phrase : ws = w :: (articles ++ [c]))
    (said : (comparativeOf? w.lowered).isSome = true) (few : articles.length ≤ 2)
    (article : ∀ a ∈ articles, a.folded = "the") (selection : c.lowered ∈ contextualWords)
  /-- It is the target of a guess. -/
  | guess {target value : Word} (phrase : ws.Juxtaposes target value)
    (selection : target.lowered ∈ contextualWords)

/-- A comparative that is left as a value: that of a guess. -/
def Phrase.OverlooksComparative (ws : Phrase) : Prop :=
  ∃ target value : Word, ws.Juxtaposes target value ∧ (comparativeOf? value.lowered).isSome = true

theorem contextualWords_words : ∀ c ∈ contextualWords, words c = [c] := by decide

/-- A phrase that is a word for the selection, or one after an article. -/
theorem Phrase.Clean.of_dropArticle (h : ws.Clean)
    (hc : dropArticle ws.lowered ∈ contextualWords) :
    ∃ (articles : Phrase) (c : Word), ws = articles ++ [c] ∧ articles.length ≤ 1 ∧
      (∀ a ∈ articles, a.folded = "the") ∧ c.lowered ∈ contextualWords := by
  have hword := contextualWords_words _ hc
  rcases words_dropArticle ws.lowered with hw | hw
  · rw [h.words_lowered, hword] at hw
    obtain ⟨c, rfl, hlow⟩ := List.map_eq_singleton_iff.1 hw
    exact ⟨[], c, rfl, Nat.zero_le 1, List.forall_mem_nil _, hlow ▸ hc⟩
  · rw [h.words_lowered, hword] at hw
    obtain ⟨a, rest, rfl, ha, hrest⟩ := List.map_eq_cons_iff.1 hw
    obtain ⟨c, rfl, hlow⟩ := List.map_eq_singleton_iff.1 hrest
    have harticle : a.folded = "the" := by
      rw [(h a List.mem_cons_self).agrees (ha ▸ by decide), ha]
    exact ⟨[a], c, rfl, Nat.le_refl 1, List.forall_mem_singleton.2 harticle, hlow ▸ hc⟩

/-- A comparative before a target that is a word for the selection. -/
theorem overlooksSelection_of_comparative {w : Word} {target : Phrase} (h : Phrase.Clean (w :: rest))
    (hsaid : (comparativeOf? w.lowered).isSome = true)
    (harticle : Phrase.afterArticle? Phrase.isPresent rest = some target)
    (hc : dropArticle target.lowered ∈ contextualWords) :
    Phrase.OverlooksSelection (w :: rest) := by
  have hclean : target.Clean := h.subset
    (List.subset_cons_of_subset w (afterArticle?_suffix harticle).2.subset)
  obtain ⟨articles, c, rfl, hfew, harticles, hselection⟩ := hclean.of_dropArticle hc
  rcases afterArticle?_cases harticle with rfl | ⟨a, ha, rfl⟩
  · exact .comparative rfl hsaid (Nat.le_succ_of_le hfew) harticles hselection
  · have hphrase : w :: a :: (articles ++ [c]) = w :: ((a :: articles) ++ [c]) := rfl
    exact .comparative hphrase hsaid (Nat.succ_le_succ hfew)
      (List.forall_mem_cons.2 ⟨ha, harticles⟩) hselection

/-! ## What is recognised -/

theorem selection_styleDraft (target value : String) (direction : Option Direction)
    (confidence : Rat) :
    ∀ t ∈ (styleDraft target value direction confidence).target, t ∈ contextualWords →
      t = contextualTarget ∧
        (styleDraft target value direction confidence).scope = some .selected := by
  cases styleDraft_about target value direction confidence with
  | selection contextual about scope =>
    rw [about]
    exact fun t ht _ => ⟨(Option.some.inj ht).symm, scope⟩
  | named own about scope =>
    intro t ht hc
    rw [about] at ht
    cases ht
    exact absurd hc own

theorem comparative_styleDraft {value : String} (h : ∀ c ∈ value.toList, Settled c.toNat)
    (target : String) (direction : Option Direction) (confidence : Rat)
    (hnone : (styleDraft target value direction confidence).direction = none) :
    ∀ v ∈ (styleDraft target value direction confidence).value, comparative? v = none := by
  cases styleDraft_asks target value direction confidence with
  | said plain asked turned =>
    have hsettled : ∀ c ∈ (trim value).toList, Settled c.toNat := by
      intro c hm
      rw [trim, String.toList_ofList] at hm
      exact h c ((trimChars_isInfix _).subset hm)
    rw [turned] at hnone
    rw [asked]
    rintro v ⟨⟩
    rw [comparative?_of_settled hsettled, trim_trim, plain hnone]
  | comparative property step untold said asked turned =>
    rw [turned] at hnone
    cases hnone

/-- A shade is written with a hyphen, as no comparative is. -/
theorem comparative?_shade {s w : Word} (hs : s.Clean) (hw : w.Clean) :
    comparative? (s.lowered ++ "-" ++ w.lowered) = none := by
  have hchars : (s.lowered ++ "-" ++ w.lowered).toList =
      s.lowered.toList ++ '-' :: w.lowered.toList := by
    simp [String.toList_append]
  have hword : IsWord (s.lowered ++ "-" ++ w.lowered).toList := by
    rw [hchars]
    exact ⟨by simp, List.forall_mem_append.2
      ⟨hs.word.solid, List.forall_mem_cons.2 ⟨by decide, hw.word.solid⟩⟩⟩
  have hsettled : ∀ c ∈ (s.lowered ++ "-" ++ w.lowered).toList, Settled c.toNat := by
    rw [hchars]
    exact List.forall_mem_append.2 ⟨hs.settled, List.forall_mem_cons.2
      ⟨settled_of_ascii (by decide) (by decide), hw.settled⟩⟩
  rw [comparative?_of_settled hsettled, hword.trim_eq]
  apply comparativeOf?_eq_none
  intro hm
  exact comparativeWords_no_hyphen _ hm (by rw [hchars]; simp)

/-- What is said about the selection without a direction is no comparative. -/
theorem Phrase.Says.comparative_recognised {value : String} {direction : Option Direction}
    (h : ws.Says value direction) (hclean : ws.Clean) (hnone : direction = none) :
    comparative? value = none := by
  cases h with
  | step hpart direction => cases hnone
  | comparative hword hsaid => cases hnone
  | @color w hword hknown =>
    have hw := hclean w hword
    rw [hw.comparative?]
    apply comparativeOf?_eq_none
    intro hm
    -- a comparative is ASCII, so patterns would see it too
    rw [hw.agrees (comparativeWords_ascii _ hm)] at hknown
    exact comparativeWords_no_color _ hm hknown
  | @shade s w hshade hcolor => exact comparative?_shade (hclean s hshade) (hclean w hcolor)
  | colorWord hknown =>
    have hplain := plainValue_of_color ws.lowered (has_iff_mem_keys.1 hknown)
    rw [comparative?_of_settled hclean.settled, hplain.trimmed, hplain.comparative]

/-- **A word for the selection is recognised**, unless it stands where it is overlooked. -/
theorem Draft.Origin.selection_recognised (h : d.Origin ws) (hclean : ws.Clean)
    (hkind : d.kind = .style) (hws : ¬ws.OverlooksSelection) :
    ∀ t ∈ d.target, t ∈ contextualWords → t = contextualTarget ∧ d.scope = some .selected := by
  cases h with
  | other haside => exact absurd hkind haside.kind
  | parts hparts direction confidence => exact selection_styleDraft _ _ _ _
  | equation hcut confidence => exact selection_styleDraft _ _ _ _
  | selection hsaid confidence => exact fun t ht _ => ⟨(Option.some.inj ht).symm, rfl⟩
  | comparative hphrase hsaid harticle =>
    intro t ht hc
    cases ht
    subst hphrase
    exact absurd (overlooksSelection_of_comparative hclean (by rw [hsaid]; rfl) harticle hc) hws
  | @guess target value hphrase confidence =>
    intro t ht hc
    cases ht
    rw [dropArticle_of_isWord (hclean target hphrase.mem.1).word] at hc
    exact absurd (.guess hphrase hc) hws

/-- **A comparative is recognised**, unless it is the value of a guess. -/
theorem Draft.Origin.comparative_recognised (h : d.Origin ws) (hclean : ws.Clean)
    (hkind : d.kind = .style) (hws : ¬ws.OverlooksComparative) (hnone : d.direction = none) :
    ∀ v ∈ d.value, comparative? v = none := by
  cases h with
  | other haside => exact absurd hkind haside.kind
  | parts hparts direction confidence =>
    exact comparative_styleDraft (hclean.subset hparts.value).settled _ _ _ hnone
  | equation hcut confidence =>
    apply comparative_styleDraft _ _ _ _ hnone
    intro c hc
    apply hclean.settled c
    rw [(splitAtEquals?_eq_some hcut).1]
    rw [String.toList_ofList] at hc
    exact List.mem_append_right _ (List.mem_cons_of_mem _ hc)
  | selection hsaid confidence =>
    intro v hv
    cases hv
    exact hsaid.comparative_recognised hclean hnone
  | comparative hphrase hsaid harticle => cases hnone
  | @guess target value hphrase confidence =>
    intro v hv
    cases hv
    rw [(hclean value hphrase.mem.2).comparative?, ← Option.not_isSome_iff_eq_none]
    exact fun hsome => hws ⟨target, value, hphrase, hsome⟩

/-- **What every style command has**: the target is no word for the selection but "this", which
comes with the scope of the selection, and a value without a direction is no comparative.  The
first fails only where a word for the selection is overlooked, the second only where a comparative
is. -/
theorem parse_recognised {text : String} {i : Intent} (h : parse text = .ok i)
    (hkind : i.kind = .style) :
    (¬(Phrase.ofText text).OverlooksSelection →
        (∀ t ∈ ["it", "that", "these", "them"], i.target ≠ some t) ∧
          (i.target = some "this" → i.scope = some .selected)) ∧
      (¬(Phrase.ofText text).OverlooksComparative → i.direction = none →
        ∀ v ∈ i.value, comparative? v = none) := by
  have horigin := parse_origin h
  have hclean := clean_ofText text
  refine ⟨fun hws => ⟨?_, ?_⟩, fun hws => horigin.comparative_recognised hclean hkind hws⟩
  · intro t ht htarget
    have hapart : ∀ t ∈ ["it", "that", "these", "them"], t ∈ contextualWords ∧ t ≠ "this" := by
      decide
    obtain ⟨hc, hne⟩ := hapart t ht
    exact hne (horigin.selection_recognised hclean hkind hws t htarget hc).1
  · intro htarget
    exact (horigin.selection_recognised hclean hkind hws "this" htarget (by decide)).2

/-- The word for the selection and the comparative of a command that says "make". -/
theorem make_it_rounder_recognised :
    ∃ i, parse "make it rounder" = .ok i ∧ i.kind = .style ∧
      (∀ t ∈ ["it", "that", "these", "them"], i.target ≠ some t) ∧
      (i.target = some "this" → i.scope = some .selected) ∧
      (i.direction = none → ∀ v ∈ i.value, comparative? v = none) := by
  have hparse : parse "make it rounder" = .ok {
      kind := .style
      confidence := 90 / 100
      target := some "this"
      value := some "rounded"
      direction := some .more
      scope := some .selected
      raw := "make it rounder" } := by
    decide +kernel
  have hphrase : Phrase.ofText "make it rounder" =
      [⟨"make", "make"⟩, ⟨"it", "it"⟩, ⟨"rounder", "rounder"⟩] := by
    decide +kernel
  have hapart : ∀ target value, ¬(Phrase.ofText "make it rounder").Juxtaposes target value := by
    rw [hphrase]
    rintro target value (hpair | ⟨middle, hmiddle, htriple⟩)
    · have hlength := congrArg List.length hpair
      simp at hlength
    · rw [← (List.cons.inj (List.cons.inj htriple).2).1] at hmiddle
      exact absurd hmiddle (by decide)
  have hselection : ¬(Phrase.ofText "make it rounder").OverlooksSelection := by
    intro h
    cases h with
    | comparative hcomparative hsaid =>
      rw [hphrase] at hcomparative
      rw [← List.head_eq_of_cons_eq hcomparative] at hsaid
      exact absurd hsaid (by decide)
    | guess hguess => exact hapart _ _ hguess
  have hcomparative : ¬(Phrase.ofText "make it rounder").OverlooksComparative := by
    rintro ⟨target, value, hguess, -⟩
    exact hapart target value hguess
  obtain ⟨htarget, hvalue⟩ := parse_recognised hparse rfl
  exact ⟨_, hparse, rfl, (htarget hselection).1, (htarget hselection).2, hvalue hcomparative⟩

/-- Both are overlooked in a guess, and the word for the selection after a comparative. -/
theorem rounder_overlooked :
    (∃ i, parse "it rounder" = .ok i ∧ i.kind = .style ∧ i.target = some "it" ∧
      i.direction = none ∧ i.value = some "rounder" ∧
      comparative? "rounder" = some ("rounded", .more)) ∧
    ∃ i, parse "darker it" = .ok i ∧ i.kind = .style ∧ i.target = some "it" := by
  have hguess : parse "it rounder" = .ok {
      kind := .style
      confidence := 40 / 100
      target := some "it"
      value := some "rounder"
      raw := "it rounder" } := by
    decide +kernel
  have hcomparative : parse "darker it" = .ok {
      kind := .style
      confidence := 80 / 100
      target := some "it"
      value := some "dark"
      direction := some .more
      raw := "darker it" } := by
    decide +kernel
  exact ⟨⟨_, hguess, rfl, rfl, rfl, rfl, by decide⟩, ⟨_, hcomparative, rfl, rfl⟩⟩

end Restyle.Command
