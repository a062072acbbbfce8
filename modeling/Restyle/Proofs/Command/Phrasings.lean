import Mathlib.Data.List.Infix
import Restyle.Proofs.Command.Clean
import Restyle.Proofs.Command.Respelled

/-!
# Explicit phrasings

A target is given a value in six ways: "make the T V", "change the T to V", "set the T to V",
"the T should be V", "use V for the T" and "please set the T to V".  For a target of one word,
whatever word it is, and a word for a colour they are all read as the same command.

* `fixed_rules_skip` — the rules for fixed phrases leave such a phrase to the rules after them.
* `splitAroundFrom_pass` — where a phrase is split around a middle.
* `explicit_phrasings_agree` — what the six are read as.
-/

set_option autoImplicit false

namespace Restyle.Command

open Restyle.Text Restyle.Vocabulary

variable {ws rest : Phrase} {p : List String}

/-- The explicit ways to give a target a value. -/
def explicitPhrasings (target value : String) : List String := [
    "make the " ++ target ++ " " ++ value,
    "change the " ++ target ++ " to " ++ value,
    "set the " ++ target ++ " to " ++ value,
    "the " ++ target ++ " should be " ++ value,
    "use " ++ value ++ " for the " ++ target,
    "please set the " ++ target ++ " to " ++ value]

/-! ## How a phrase begins -/

/-- Whether two openings differ at a place that both have. -/
def clash (o p : List String) : Bool := (o.zip p).any fun (a, b) => a != b

theorem after?_clash {o : List String} (hp : p <+: ws.map Word.folded) (h : clash o p = true) :
    Phrase.after? o ws = none := by
  induction o generalizing p ws with
  | nil => simp [clash] at h
  | cons a o ih =>
    cases p with
    | nil => simp [clash] at h
    | cons b p =>
      cases ws with
      | nil => rfl
      | cons w ws =>
        obtain ⟨hb, hrest⟩ := List.cons_prefix_cons.1 hp
        rw [Phrase.after?]
        split
        · rename_i hw
          apply ih hrest
          have hab : b = a := by simpa [hb] using hw
          simpa [clash, hab] using h
        · rfl

theorem afterAny?_clash {os : List (List String)} (hp : p <+: ws.map Word.folded)
    (h : ∀ o ∈ os, clash o p = true) : Phrase.afterAny? os ws = none := by
  rw [Phrase.afterAny?, List.findSome?_eq_none_iff]
  exact fun o ho => after?_clash hp (h o ho)

theorem skipping_clash {os : List (List String)} (hp : p <+: ws.map Word.folded)
    (h : ∀ o ∈ os, clash o p = true) : Phrase.skipping os ws = ws := by
  rw [Phrase.skipping, afterAny?_clash hp h]
  rfl

/-- A phrase whose words are words, and that has at least a number of them and begins in a given
way. -/
structure Phrase.Opens (n : Nat) (p : List String) (ws : Phrase) : Prop where
  lowered : ∀ w ∈ ws, IsWord w.lowered.toList
  folded : ∀ w ∈ ws, IsWord w.folded.toList
  long : n ≤ ws.length
  front : p <+: ws.map Word.folded

variable {n : Nat}

theorem Phrase.Opens.words_folded (h : ws.Opens n p) : words ws.folded = ws.map Word.folded :=
  words_unwords_of_isWord (List.forall_mem_map.2 h.folded)

theorem Phrase.Opens.words_lowered (h : ws.Opens n p) : words ws.lowered = ws.map Word.lowered :=
  words_unwords_of_isWord (List.forall_mem_map.2 h.lowered)

/-- A phrase that does not begin as the fixed ones do is none of them. -/
theorem Phrase.Opens.folded_ne (h : ws.Opens n p) {s : String} (hs : ¬p <+: words s) :
    ws.folded ≠ s := by
  rintro rfl
  rw [h.words_folded] at hs
  exact hs h.front

theorem Phrase.Opens.not_contains_folded (h : ws.Opens n p) {phrases : List String}
    (hs : ∀ s ∈ phrases, ¬p <+: words s) : phrases.contains ws.folded = false := by
  rw [← Bool.not_eq_true, List.contains_iff_mem]
  exact fun hm => h.folded_ne (hs _ hm) rfl

theorem withEnding?_long {stems endings : List String} (h : 3 ≤ ws.length) :
    withEnding? stems endings ws = none := by
  unfold withEnding?
  split
  · simp at h
  · simp at h
  · rfl

/-! ## Rules for fixed phrases -/

/-- How the explicit phrasings begin. -/
def explicitOpenings : List (List String) :=
  [["make", "the"], ["change"], ["set"], ["the"], ["use"], ["please"]]

/-- Openings of the rules for fixed phrases, apart from `makeIt`. -/
def fixedOpenings : List (List String) :=
  [["switch", "to"], ["enable"], ["turn", "on"], ["go"], ["toggle"], ["switch"], ["flip"],
    ["make", "it"], ["look"], ["add"], ["a"], ["sidebar"]]

theorem fixedOpenings_clash : ∀ p ∈ explicitOpenings, ∀ o ∈ fixedOpenings, clash o p = true := by
  decide

theorem Phrase.Opens.skipping_fixed (h : ws.Opens n p) (hp : p ∈ explicitOpenings)
    (os : List (List String)) (hos : ∀ o ∈ os, o ∈ fixedOpenings) :
    Phrase.skipping os ws = ws :=
  skipping_clash h.front fun o ho => fixedOpenings_clash p hp o (hos o ho)

/-- A "make" in front is skipped, and the article after it is left. -/
theorem Phrase.Opens.skipping_makeIt (h : ws.Opens 4 p) (hp : p ∈ explicitOpenings) :
    ∃ q ∈ explicitOpenings, q ≠ ["make", "the"] ∧ (Phrase.skipping makeIt ws).Opens 3 q := by
  by_cases hmake : p = ["make", "the"]
  · subst hmake
    obtain ⟨hlow, hfold, hlong, hfront⟩ := h
    match ws, hlong, hfront, hlow, hfold with
    | m :: a :: rest, hlong, hfront, hlow, hfold =>
      obtain ⟨hm, ha⟩ := List.cons_prefix_cons.1 hfront
      obtain ⟨ha, -⟩ := List.cons_prefix_cons.1 ha
      have hskip : Phrase.skipping makeIt (m :: a :: rest) = a :: rest := by
        simp [Phrase.skipping, makeIt, Phrase.afterAny?, Phrase.after?, ← hm, ← ha]
      rw [hskip]
      refine ⟨["the"], by decide, by decide, ?_, ?_, ?_, ?_⟩
      · exact fun w hw => hlow w (List.mem_cons_of_mem m hw)
      · exact fun w hw => hfold w (List.mem_cons_of_mem m hw)
      · simpa using hlong
      · exact List.cons_prefix_cons.2 ⟨ha, List.nil_prefix⟩
  · have hclash : ∀ p ∈ explicitOpenings, p ≠ ["make", "the"] → ∀ o ∈ makeIt, clash o p = true := by
      decide
    refine ⟨p, hp, hmake, ?_⟩
    rw [skipping_clash h.front (hclash p hp hmake)]
    exact ⟨h.lowered, h.folded, Nat.le_of_succ_le h.long, h.front⟩

theorem undo_skips (h : ws.Opens n p) (hp : p ∈ explicitOpenings) : undo ws = none := by
  have hnone : ∀ p ∈ explicitOpenings, ∀ s ∈ ["undo", "go back", "revert", "take that back",
      "oops"], ¬p <+: words s := by decide +kernel
  rw [undo, h.not_contains_folded (hnone p hp)]
  rfl

theorem redo_skips (h : ws.Opens n p) (hp : p ∈ explicitOpenings) : redo ws = none := by
  have hnone : ∀ p ∈ explicitOpenings, ∀ s ∈ ["redo", "redo that", "do it again"],
      ¬p <+: words s := by decide +kernel
  rw [redo, h.not_contains_folded (hnone p hp)]
  rfl

theorem modeByName_skips (h : ws.Opens 4 p) (hp : p ∈ explicitOpenings) :
    modeByName ws = none := by
  rw [modeByName, h.skipping_fixed hp _ (by decide), withEnding?_long (Nat.le_of_succ_le h.long)]
  rfl

theorem modeToggle_skips (h : ws.Opens 4 p) (hp : p ∈ explicitOpenings) :
    modeToggle ws = none := by
  have hnone : Phrase.afterAny? [["toggle"], ["switch"], ["flip"]] ws = none :=
    afterAny?_clash h.front fun o ho => fixedOpenings_clash p hp o (by revert o; decide)
  rw [modeToggle, hnone]
  rfl

theorem modeByAdjective_skips (h : ws.Opens 4 p) (hp : p ∈ explicitOpenings) :
    modeByAdjective ws = none := by
  have hlong := h.long
  rw [modeByAdjective, h.skipping_fixed hp _ (by decide)]
  split
  · simp at hlong
  · rfl

theorem presetByAdjective_skips (h : ws.Opens 4 p) (hp : p ∈ explicitOpenings) :
    presetByAdjective ws = none := by
  have hlong := h.long
  rw [presetByAdjective, h.skipping_fixed hp _ (by decide), h.skipping_fixed hp _ (by decide)]
  split
  · simp at hlong
  · simp at hlong
  · rfl

theorem presetByPhrase_skips (h : ws.Opens n p) (hp : p ∈ explicitOpenings) :
    presetByPhrase ws = none := by
  have hnone : ∀ p ∈ explicitOpenings, ∀ s ∈ ["make it pop", "tone it down", "tone down",
      "soften", "sharpen", "modernize", "freshen up"], ¬p <+: words s := by decide +kernel
  rw [presetByPhrase, h.not_contains_folded (hnone p hp)]
  rfl

theorem columns_skips (h : ws.Opens 4 p) (hp : p ∈ explicitOpenings) : columns ws = none := by
  obtain ⟨q, -, -, hrest⟩ := h.skipping_makeIt hp
  have hlong := hrest.long
  rw [columns]
  split
  · rename_i hs
    rw [hs] at hlong
    simp at hlong
  · rfl

theorem sidebarOn_skips (h : ws.Opens 4 p) (hp : p ∈ explicitOpenings) :
    sidebarOn ws = none := by
  have hnone : Phrase.after? ["sidebar"] ws = none :=
    after?_clash h.front (fixedOpenings_clash p hp _ (by decide))
  simp only [sidebarOn, h.skipping_fixed hp [["add"]] (by decide),
    h.skipping_fixed hp [["a"]] (by decide), hnone]
  rfl

theorem sidebarSide_skips (h : ws.Opens 4 p) : sidebarSide ws = none := by
  have hlong := h.long
  unfold sidebarSide
  split
  · simp at hlong
  · rfl

theorem sideBySide_skips (h : ws.Opens 4 p) (hp : p ∈ explicitOpenings) :
    sideBySide ws = none := by
  obtain ⟨q, hq, hne, hrest⟩ := h.skipping_makeIt hp
  have hnone : ∀ q ∈ explicitOpenings, ¬q <+: words "side by side" := by decide +kernel
  rw [sideBySide, if_neg]
  simpa using hrest.folded_ne (hnone q hq)

theorem stacked_skips (h : ws.Opens 4 p) (hp : p ∈ explicitOpenings) : stacked ws = none := by
  obtain ⟨q, hq, hne, hrest⟩ := h.skipping_makeIt hp
  have hnone : ∀ q ∈ explicitOpenings, ¬q <+: words "stacked" := by decide +kernel
  rw [stacked, if_neg]
  simpa using hrest.folded_ne (hnone q hq)

theorem grid_skips (h : ws.Opens 4 p) (hp : p ∈ explicitOpenings) : grid ws = none := by
  obtain ⟨q, hq, hne, hrest⟩ := h.skipping_makeIt hp
  rw [grid, hrest.skipping_fixed hq _ (by decide), withEnding?_long hrest.long]
  rfl

theorem reading_of_some {rule : Phrase → Option Draft} {d : Draft} (h : rule ws = some d) :
    reading rule ws = some (.ok d) := by
  rw [reading, h]
  rfl

theorem reading_of_none {rule : Phrase → Option Draft} (h : rule ws = none) :
    reading rule ws = none := by
  rw [reading, h]
  rfl

/-- **The rules for fixed phrases leave an explicit phrasing to the rules after them.** -/
theorem fixed_rules_skip (h : ws.Opens 4 p) (hp : p ∈ explicitOpenings) :
    ∀ rule ∈ rules.take 13, rule ws = none := by
  simp only [rules, List.take_succ_cons, List.take_zero, List.forall_mem_cons]
  exact ⟨reading_of_none (undo_skips h hp), reading_of_none (redo_skips h hp),
    reading_of_none (modeByName_skips h hp), reading_of_none (modeToggle_skips h hp),
    reading_of_none (modeByAdjective_skips h hp), reading_of_none (presetByAdjective_skips h hp),
    reading_of_none (presetByPhrase_skips h hp), reading_of_none (columns_skips h hp),
    reading_of_none (sidebarOn_skips h hp), reading_of_none (sidebarSide_skips h),
    reading_of_none (sideBySide_skips h hp), reading_of_none (stacked_skips h hp),
    reading_of_none (grid_skips h hp), List.forall_mem_nil _⟩

/-- A phrase of many words is no preset's phrase. -/
theorem presetPhrases_skip (h : ws.Opens 4 p) : presetPhrases.meaning? ws.lowered = none := by
  rw [Table.meaning?, List.lookup_eq_none_iff]
  intro entry hentry
  have hshort : ∀ entry ∈ presetPhrases, (words entry.1).length ≤ 3 := by decide +kernel
  have hlong : (words (tableKey ws.lowered)).length = ws.length := by
    rw [tableKey, length_words_trim_lower, h.words_lowered, List.length_map]
  rw [bne_iff_ne]
  rintro heq
  have hle := hshort entry hentry
  have hfour := h.long
  rw [← heq] at hle
  omega

/-- The first rule for style commands that reads an explicit phrasing decides. -/
theorem readPhrase_explicit (h : ws.Opens 4 p) (hp : p ∈ explicitOpenings) {d : Draft}
    (hd : (rules.drop 13).findSome? (fun rule => rule ws) = some (.ok d)) :
    readPhrase ws = .ok d := by
  have hne : ws.isEmpty = false := by
    have hlong := h.long
    cases ws with
    | nil => simp at hlong
    | cons w ws => rfl
  unfold readPhrase
  rw [if_neg (by simp [hne]), presetPhrases_skip h]
  dsimp only
  rw [← List.take_append_drop 13 rules, List.findSome?_append,
    List.findSome?_eq_none_iff.2 (fixed_rules_skip h hp), Option.none_or, hd]
  rfl

/-! ## Where a phrase is split -/

theorem after?_eq_none {o : List String} (ho : o ≠ [])
    (h : ∀ w ∈ ws.head?, clash o [w.folded] = true) : Phrase.after? o ws = none := by
  cases ws with
  | nil =>
    cases o with
    | nil => exact absurd rfl ho
    | cons a o => rfl
  | cons w ws => exact after?_clash (List.cons_prefix_cons.2 ⟨rfl, List.nil_prefix⟩) (h w rfl)

/-- Words that begin no middle are passed until a middle is found. -/
theorem splitAroundFrom_pass {middles : List (List String)} {right : Phrase} (xs : Phrase)
    (hxs : ∀ x ∈ xs, ∀ m ∈ middles, clash m [x.folded] = true)
    (hit : (middles.filterMap fun m => Phrase.after? m rest).find? Phrase.isPresent = some right)
    (before : Phrase) (w : Word) :
    Phrase.splitAroundFrom middles before (w :: (xs ++ rest)) =
      some (before ++ w :: xs, right) := by
  induction xs generalizing before w with
  | nil => rw [List.nil_append, Phrase.splitAroundFrom, hit]
  | cons x xs ih =>
    obtain ⟨hx, hxs⟩ := List.forall_mem_cons.1 hxs
    have hnone : (middles.filterMap fun m => Phrase.after? m (x :: (xs ++ rest))) = [] := by
      rw [List.filterMap_eq_nil_iff]
      exact fun m hm => after?_clash (List.cons_prefix_cons.2 ⟨rfl, List.nil_prefix⟩) (hx m hm)
    rw [List.cons_append, Phrase.splitAroundFrom, hnone, List.find?_nil]
    dsimp only
    rw [ih hxs, List.append_assoc]
    rfl

/-- A phrase without a middle after its first word is not split. -/
theorem splitAroundFrom_none {middles : List (List String)}
    (h : ∀ rest, rest <:+ ws.tail → ∀ m ∈ middles, Phrase.after? m rest = none)
    (before : Phrase) : Phrase.splitAroundFrom middles before ws = none := by
  induction ws generalizing before with
  | nil => rfl
  | cons w ws ih =>
    have hnone : (middles.filterMap fun m => Phrase.after? m ws) = [] :=
      List.filterMap_eq_nil_iff.2 (h ws List.suffix_rfl)
    rw [Phrase.splitAroundFrom, hnone, List.find?_nil]
    exact ih (fun rest hr => h rest (hr.trans (List.tail_suffix ws))) _

/-! ## Words for colours -/

/-- The words that stand between a target and a value. -/
def middleWords : List String := ["to", "be", "for", "on", "as", "should"]

/-- A value that is put into a command as it is: nothing in it is taken for a middle, a direction
or a comparative. -/
structure PlainValue (value : String) : Prop where
  lowered : (Phrase.ofText value).lowered = value
  present : Phrase.ofText value ≠ []
  apart : ∀ w ∈ Phrase.ofText value, w.folded ∉ middleWords
  direction : Split.takeDirection (Phrase.ofText value) = (none, Phrase.ofText value)
  comparative : comparativeOf? value = none
  trimmed : trim value = value
  known : isValuePhrase value = true

/-- A word that has no capitals, as it stands in a command. -/
def spoken (word : String) : Word := ⟨word, word⟩

/-- A text in small ASCII letters is read as it is written. -/
theorem ofText_small {s : String} (h : isSmall s = true) :
    Phrase.ofText s = (words s).map spoken := by
  have hsmall := small_of_isSmall h
  have hfold : s.toList.map foldChar = s.toList := by
    rw [List.map_congr_left fun c hc => foldChar_of_small (hsmall c hc).1 (hsmall c hc).2,
      List.map_id']
  rw [ofText_ascii fun c hc => .inr (hsmall c hc).1, hfold, words, List.map_map]
  rfl

theorem plainValue_of_color : ∀ v ∈ colorWords.keys, PlainValue v := by
  have hrows : ∀ v ∈ colorWords.keys, isSmall v = true ∧ trimChars (byteChars v) = byteChars v ∧
      List.intercalate [' '] (wordChars (byteChars v)) = byteChars v ∧
      wordChars (byteChars v) ≠ [] ∧
      (∀ w ∈ wordChars (byteChars v),
        String.ofList w ∉ middleWords ∧ String.ofList w ∉ ["more", "less"]) ∧
      comparativeOf? v = none := by
    decide +kernel
  intro v hv
  obtain ⟨hsmall, htrim, hjoin, hpresent, hapart, hcomp⟩ := hrows v hv
  rw [← toList_of_isSmall hsmall] at htrim hjoin hpresent hapart
  have hunwords : unwords (words v) = v := by
    have hspace : (" " : String).toList = [' '] := rfl
    rw [← String.toList_inj, unwords, String.toList_intercalate, hspace, words, List.map_map]
    simpa [Function.comp_def] using hjoin
  have hphrase := ofText_small hsmall
  have hmap : ((words v).map spoken).map Word.lowered = words v := by
    rw [List.map_map]
    exact List.map_id' _
  have hknown : colorWords.has v = true := has_iff_mem_keys.2 hv
  have hparts : ∀ w ∈ words v, w ∉ middleWords ∧ w ∉ ["more", "less"] :=
    List.forall_mem_map.2 hapart
  refine ⟨?_, ?_, ?_, ?_, hcomp, ?_, ?_⟩
  · rw [hphrase, Phrase.lowered, hmap, hunwords]
  · rw [hphrase]
    simpa [words] using hpresent
  · rw [hphrase, List.forall_mem_map]
    exact fun w hw => (hparts w hw).1
  · rw [hphrase]
    refine takeDirection_of_free fun w w' rest hcons => ?_
    have hw : w ∈ (words v).map spoken := hcons ▸ List.mem_cons_self
    obtain ⟨word, hword, rfl⟩ := List.mem_map.1 hw
    exact (hparts word hword).2
  · rw [trim, htrim, String.ofList_toList]
  · simp [isValuePhrase, hknown]

theorem PlainValue.clash {value : String} (h : PlainValue value) {m : List String} {x : String}
    (hm : m.head? = some x) (hx : x ∈ middleWords) :
    ∀ w ∈ Phrase.ofText value, clash m [w.folded] = true := by
  intro w hw
  obtain ⟨rest, rfl⟩ : ∃ rest, m = x :: rest := by
    cases m with
    | nil => cases hm
    | cons a rest => exact ⟨rest, by rw [Option.some.inj hm]⟩
  have hne : x ≠ w.folded := by
    rintro rfl
    exact h.apart w hw hx
  simpa [Command.clash] using hne

theorem PlainValue.isPresent {value : String} (h : PlainValue value) :
    (Phrase.ofText value).isPresent = true := by
  simpa [Phrase.isPresent] using h.present

/-- The words that the phrasings have of their own. -/
def phrasingWords : List String :=
  ["make", "change", "set", "the", "to", "should", "be", "use", "for", "please"]

theorem after?_spoken (word : String) (o : List String) (ws : Phrase) :
    Phrase.after? (word :: o) (spoken word :: ws) = Phrase.after? o ws := by
  simp [Phrase.after?, spoken]

theorem choices_the (ws : Phrase) :
    Phrase.choices [["the"]] (spoken "the" :: ws) = [ws, spoken "the" :: ws] := by
  rfl

theorem afterArticle?_the {ok : Phrase → Bool} (h : ok ws = true) :
    Phrase.afterArticle? ok (spoken "the" :: ws) = some ws := by
  rw [Phrase.afterArticle?, choices_the, List.find?_cons_of_pos h]

/-! ## Targets of one word -/

/-- The command that gives a target of one word a value. -/
structure Gives (target value : String) (d : Draft) : Prop where
  kind : d.kind = .style
  value : d.value = some value
  direction : d.direction = none
  named : lower target ∉ contextualWords → d.target = some (lower target) ∧ d.scope = none
  selected : lower target ∈ contextualWords →
    d.target = some contextualTarget ∧ d.scope = some .selected

theorem gives_styleDraft {t v : String} (ht : IsWord t.toList) (hv : PlainValue v)
    (confidence : Rat) : Gives t v (styleDraft (lower t) v none confidence) := by
  unfold styleDraft
  rw [ht.lower.trim_eq, dropArticle_of_isWord ht.lower, hv.trimmed]
  dsimp only
  rw [hv.comparative]
  dsimp only
  split
  · rename_i hc
    have hm := List.contains_iff_mem.1 hc
    exact ⟨rfl, rfl, rfl, fun hn => absurd hm hn, fun _ => ⟨rfl, rfl⟩⟩
  · rename_i hc
    have hn : lower t ∉ contextualWords := fun hm => hc (List.contains_iff_mem.2 hm)
    exact ⟨rfl, rfl, rfl, fun _ => ⟨rfl, rfl⟩, fun hm => absurd hm hn⟩

theorem lowered_singleton (w : Word) : Phrase.lowered [w] = w.lowered := rfl

theorem gives_pairDraft {t v : String} (ht : IsWord t.toList) (hv : PlainValue v)
    (confidence : Rat) :
    Gives t v (pairDraft confidence [Word.ofText t] (Phrase.ofText v)) := by
  rw [pairDraft, lowered_singleton, hv.lowered]
  exact gives_styleDraft ht hv confidence

/-- A split draft whose phrase is cut after the first word. -/
theorem gives_splitDraft {t v : String} (ht : IsWord t.toList) (hv : PlainValue v)
    (confidence : Rat) (h : Split.ofPhrase ws = ⟨[Word.ofText t], none, Phrase.ofText v⟩) :
    Gives t v (splitDraft confidence ws) := by
  rw [splitDraft, h]
  exact gives_pairDraft ht hv confidence

/-! ## Phrases put together -/

section Splits

variable {v : String} (hv : PlainValue v)

include hv

theorem ofPhrase_value (w : Word) :
    Split.ofPhrase (w :: Phrase.ofText v) = ⟨[w], none, Phrase.ofText v⟩ := by
  have hnone : Phrase.splitAround? [["to", "be"], ["to"]] (w :: Phrase.ofText v) = none := by
    apply splitAroundFrom_none
    intro rest hr m hm
    have hm' : m ≠ [] ∧ m.head? = some "to" := by
      revert m
      decide
    refine after?_eq_none hm'.1 fun u hu => ?_
    exact hv.clash hm'.2 (by decide) u (hr.subset (List.mem_of_mem_head? hu))
  have hcut : Split.atWord (w :: Phrase.ofText v) 1 = ⟨[w], none, Phrase.ofText v⟩ := by
    rw [Split.atWord, List.drop_succ_cons, List.drop_zero, hv.direction]
    rfl
  have hvalue : Split.hasValuePhrase ⟨[w], none, Phrase.ofText v⟩ = true := by
    rw [Split.hasValuePhrase, hv.lowered]
    exact hv.known
  obtain ⟨n, hn⟩ := Nat.exists_eq_succ_of_ne_zero (List.length_pos_iff.2 hv.present).ne'
  rw [Split.ofPhrase, hnone]
  dsimp only
  rw [Split.byValue, List.length_cons, Nat.add_sub_cancel, hn, List.range_succ_eq_map,
    List.map_cons, hcut, List.find?_cons_of_pos hvalue]
  rfl

/-- A middle right after a word splits the phrase there. -/
theorem splitAround?_middle {middles : List (List String)} {m : List String} (hm : middles = [m])
    (w : Word) (h : Phrase.after? m rest = some (Phrase.ofText v)) :
    Phrase.splitAround? middles (w :: rest) = some ([w], Phrase.ofText v) := by
  subst hm
  exact splitAroundFrom_pass [] (List.forall_mem_nil _)
    (by simp [h, hv.isPresent]) [] w

theorem ofPhrase_to (w : Word) :
    Split.ofPhrase (w :: spoken "to" :: Phrase.ofText v) = ⟨[w], none, Phrase.ofText v⟩ := by
  have hbe : Phrase.after? ["be"] (Phrase.ofText v) = none :=
    after?_eq_none (by decide) fun u hu => hv.clash rfl (by decide) u (List.mem_of_mem_head? hu)
  have hsplit : Phrase.splitAround? [["to", "be"], ["to"]]
      (w :: spoken "to" :: Phrase.ofText v) = some ([w], Phrase.ofText v) :=
    splitAroundFrom_pass [] (List.forall_mem_nil _)
      (by simp [Phrase.after?, spoken, hbe, hv.isPresent]) [] w
  rw [Split.ofPhrase, hsplit]

/-- A value in front of a middle is passed. -/
theorem splitAround?_value {middles : List (List String)}
    (hmiddles : ∀ m ∈ middles, ∃ x ∈ middleWords, m.head? = some x) {right : Phrase}
    (hit : (middles.filterMap fun m => Phrase.after? m rest).find? Phrase.isPresent = some right) :
    Phrase.splitAround? middles (Phrase.ofText v ++ rest) = some (Phrase.ofText v, right) := by
  obtain ⟨w, xs, hcons⟩ := List.exists_cons_of_ne_nil hv.present
  rw [hcons]
  refine splitAroundFrom_pass xs (fun x hx m hm => ?_) hit [] w
  obtain ⟨y, hy, hhead⟩ := hmiddles m hm
  exact hv.clash hhead hy x (hcons ▸ List.mem_cons_of_mem w hx)

end Splits

/-- A phrase in which one word only can be part of a middle of two words is not split by it. -/
theorem splitAround?_two {x y : String} (hxy : x ≠ y) (u : Word)
    (h : ∀ w ∈ ws, w = u ∨ w.folded ∉ [x, y]) : Phrase.splitAround? [[x, y]] ws = none := by
  apply splitAroundFrom_none
  rintro rest hr m hm
  obtain rfl := List.mem_singleton.1 hm
  have hrest : ∀ w ∈ rest, w.folded ∈ [x, y] → w.folded = u.folded := by
    intro w hw hmem
    rcases h w (List.mem_of_mem_tail (hr.subset hw)) with rfl | hn
    · rfl
    · exact absurd hmem hn
  match rest, hrest with
  | [], _ => rfl
  | [w], _ =>
    rw [Phrase.after?]
    split <;> rfl
  | w :: w' :: rest, hrest =>
    obtain ⟨hw, hrest⟩ := List.forall_mem_cons.1 hrest
    have hw' := hrest w' List.mem_cons_self
    simp only [Phrase.after?, beq_iff_eq]
    split_ifs with hx hy
    · exact absurd ((hx.symm.trans (hw (by simp [hx]))).trans
        ((hw' (by simp [hy])).symm.trans hy)) hxy
    · rfl
    · rfl

/-! ## The six phrasings -/

theorem ofText_unwords (texts : List String) :
    Phrase.ofText (unwords texts) = texts.flatMap Phrase.ofText := by
  rw [Phrase.ofText, words_unwords, List.map_flatMap]
  rfl

theorem ofText_of_isWord {s : String} (h : IsWord s.toList) :
    Phrase.ofText s = [Word.ofText s] := by
  rw [Phrase.ofText, words_of_isWord h, List.map_singleton]

theorem ofText_phrasingWords : ∀ s ∈ phrasingWords, Phrase.ofText s = [spoken s] := by
  decide +kernel

/-- A phrase is read as the command that gives a target a value. -/
def IsRead (target value : String) (ws : Phrase) : Prop :=
  ∃ d, readPhrase ws = .ok d ∧ Gives target value d

theorem makeTarget_skips (hp : p <+: ws.map Word.folded) (h : clash ["make"] p = true) :
    reading makeTarget ws = none := by
  refine reading_of_none ?_
  rw [makeTarget, after?_clash hp h]
  rfl

theorem verbTo_skips (verb : String) (hp : p <+: ws.map Word.folded)
    (h : clash [verb] p = true) : reading (verbTo verb) ws = none := by
  refine reading_of_none ?_
  rw [verbTo, after?_clash hp h]
  rfl

theorem wish_skips (hp : p <+: ws.map Word.folded)
    (h : ∀ o ∈ [["i'd"], ["i", "would"], ["i"]], clash o p = true) : reading wish ws = none := by
  refine reading_of_none ?_
  rw [wish, afterAny?_clash hp h]
  rfl

theorem request_skips (hp : p <+: ws.map Word.folded)
    (h : ∀ o ∈ [["can", "you"], ["could", "you"], ["please"]], clash o p = true) :
    reading request ws = none := by
  refine reading_of_none ?_
  rw [request, afterAny?_clash hp h]
  rfl

/-- No "should be" stands in a phrase that has one word of its own beside a value. -/
theorem shouldBe_skips (hp : p <+: ws.map Word.folded) (h : clash ["the"] p = true) (u : Word)
    (hws : ∀ w ∈ ws, w = u ∨ w.folded ∉ ["should", "be"]) : reading shouldBe ws = none := by
  have hchoices : Phrase.choices [["the"]] ws = [ws] := by
    simp [Phrase.choices, after?_clash hp h]
  refine reading_of_none ?_
  rw [shouldBe, hchoices, List.findSome?_cons, splitAround?_two (by decide) u hws]
  rfl

section Six

variable {t v : String} (ht : IsWord t.toList) (hv : PlainValue v)

include ht hv

theorem opens_explicit
    (hws : ∀ w ∈ ws, w = Word.ofText t ∨ w ∈ Phrase.ofText v ∨ w ∈ phrasingWords.map spoken)
    (hlong : 3 + (Phrase.ofText v).length ≤ ws.length) (hfront : p <+: ws.map Word.folded) :
    ws.Opens 4 p := by
  have hall : ∀ w ∈ ws, IsWord w.lowered.toList ∧ IsWord w.folded.toList := by
    intro w hw
    rcases hws w hw with rfl | hm | hm
    · exact ⟨ht.lower, ht.fold⟩
    · obtain ⟨u, hu, rfl⟩ := List.mem_map.1 hm
      have hword := isWord_of_mem_words hu
      exact ⟨hword.lower, hword.fold⟩
    · obtain ⟨u, hu, rfl⟩ := List.mem_map.1 hm
      have hwords : ∀ u ∈ phrasingWords, u.toList ≠ [] ∧ ∀ c ∈ u.toList, isBlank c = false := by
        decide
      exact ⟨⟨(hwords u hu).1, (hwords u hu).2⟩, ⟨(hwords u hu).1, (hwords u hu).2⟩⟩
  have hpos := List.length_pos_iff.2 hv.present
  exact ⟨fun w hw => (hall w hw).1, fun w hw => (hall w hw).2, by omega, hfront⟩

theorem isRead_of {d : Draft}
    (hws : ∀ w ∈ ws, w = Word.ofText t ∨ w ∈ Phrase.ofText v ∨ w ∈ phrasingWords.map spoken)
    (hlong : 3 + (Phrase.ofText v).length ≤ ws.length) (hp : p ∈ explicitOpenings)
    (hfront : p <+: ws.map Word.folded)
    (hd : (rules.drop 13).findSome? (fun rule => rule ws) = some (.ok d)) (hg : Gives t v d) :
    IsRead t v ws :=
  ⟨d, readPhrase_explicit (opens_explicit ht hv hws hlong hfront) hp hd, hg⟩

theorem isRead_make : IsRead t v
    (spoken "make" :: spoken "the" :: Word.ofText t :: Phrase.ofText v) := by
  have hpair : Phrase.isPair (Word.ofText t :: Phrase.ofText v) = true := by
    have hpos := List.length_pos_iff.2 hv.present
    simp only [Phrase.isPair, List.length_cons, decide_eq_true_eq]
    omega
  have hrule : makeTarget (spoken "make" :: spoken "the" :: Word.ofText t :: Phrase.ofText v) =
      some (splitDraft (90 / 100) (Word.ofText t :: Phrase.ofText v)) := by
    rw [makeTarget, after?_spoken, Phrase.after?, Option.bind_eq_bind, Option.bind_some,
      afterArticle?_the hpair, Option.map_some]
  refine isRead_of ht hv (p := ["make", "the"]) ?_ ?_ (by decide) ?_ ?_
    (gives_splitDraft ht hv (90 / 100) (ofPhrase_value hv _))
  · simp +contextual [phrasingWords, or_imp]
  · simp; omega
  · simp [spoken]
  · simp only [rules, List.drop_succ_cons, List.drop_zero, List.findSome?_cons,
      reading_of_some hrule]

omit ht in
theorem verbTo_reads (verb : String) :
    verbTo verb (spoken verb :: spoken "the" :: Word.ofText t :: spoken "to" :: Phrase.ofText v) =
      some (pairDraft (90 / 100) [Word.ofText t] (Phrase.ofText v)) := by
  have hsplit : Phrase.splitAround? [["to"]] (Word.ofText t :: spoken "to" :: Phrase.ofText v) =
      some ([Word.ofText t], Phrase.ofText v) :=
    splitAround?_middle hv rfl _ (after?_spoken "to" [] _)
  rw [verbTo, after?_spoken, Phrase.after?, Option.bind_eq_bind, Option.bind_some, choices_the,
    List.findSome?_cons, hsplit]
  rfl

theorem isRead_change : IsRead t v
    (spoken "change" :: spoken "the" :: Word.ofText t :: spoken "to" :: Phrase.ofText v) := by
  have hfront : ["change"] <+: (spoken "change" :: spoken "the" :: Word.ofText t :: spoken "to" ::
      Phrase.ofText v).map Word.folded := by simp [spoken]
  refine isRead_of ht hv (p := ["change"]) ?_ ?_ (by decide) hfront ?_
    (gives_pairDraft ht hv (90 / 100))
  · simp +contextual [phrasingWords, or_imp]
  · simp; omega
  · simp only [rules, List.drop_succ_cons, List.drop_zero, List.findSome?_cons,
      makeTarget_skips hfront rfl, reading_of_some (verbTo_reads hv "change")]

theorem isRead_set : IsRead t v
    (spoken "set" :: spoken "the" :: Word.ofText t :: spoken "to" :: Phrase.ofText v) := by
  have hfront : ["set"] <+: (spoken "set" :: spoken "the" :: Word.ofText t :: spoken "to" ::
      Phrase.ofText v).map Word.folded := by simp [spoken]
  refine isRead_of ht hv (p := ["set"]) ?_ ?_ (by decide) hfront ?_
    (gives_pairDraft ht hv (90 / 100))
  · simp +contextual [phrasingWords, or_imp]
  · simp; omega
  · simp only [rules, List.drop_succ_cons, List.drop_zero, List.findSome?_cons,
      makeTarget_skips hfront rfl, verbTo_skips "change" hfront rfl,
      reading_of_some (verbTo_reads hv "set")]

theorem isRead_should : IsRead t v
    (spoken "the" :: Word.ofText t :: spoken "should" :: spoken "be" :: Phrase.ofText v) := by
  have hfront : ["the"] <+: (spoken "the" :: Word.ofText t :: spoken "should" :: spoken "be" ::
      Phrase.ofText v).map Word.folded := by simp [spoken]
  have hsplit : Phrase.splitAround? [["should", "be"]]
      (Word.ofText t :: spoken "should" :: spoken "be" :: Phrase.ofText v) =
        some ([Word.ofText t], Phrase.ofText v) :=
    splitAround?_middle hv rfl _ ((after?_spoken "should" ["be"] _).trans (after?_spoken "be" [] _))
  have hrule : shouldBe
      (spoken "the" :: Word.ofText t :: spoken "should" :: spoken "be" :: Phrase.ofText v) =
        some (pairDraft (80 / 100) [Word.ofText t] (Phrase.ofText v)) := by
    rw [shouldBe, choices_the, List.findSome?_cons, hsplit]
    rfl
  refine isRead_of ht hv (p := ["the"]) ?_ ?_ (by decide) hfront ?_
    (gives_pairDraft ht hv (80 / 100))
  · simp +contextual [phrasingWords, or_imp]
  · simp; omega
  · simp only [rules, List.drop_succ_cons, List.drop_zero, List.findSome?_cons,
      makeTarget_skips hfront rfl, verbTo_skips "change" hfront rfl,
      verbTo_skips "set" hfront rfl, wish_skips hfront (by decide),
      request_skips hfront (by decide), reading_of_some hrule]

theorem isRead_use : IsRead t v
    (spoken "use" :: (Phrase.ofText v ++ [spoken "for", spoken "the", Word.ofText t])) := by
  have hfront : ["use"] <+: (spoken "use" :: (Phrase.ofText v ++
      [spoken "for", spoken "the", Word.ofText t])).map Word.folded := by simp [spoken]
  have hsplit : Phrase.splitAround? [["for"], ["on"], ["as"]]
      (Phrase.ofText v ++ [spoken "for", spoken "the", Word.ofText t]) =
        some (Phrase.ofText v, [spoken "the", Word.ofText t]) :=
    splitAround?_value hv (by decide) (by simp [Phrase.after?, spoken, Phrase.isPresent])
  have hrule : useFor
      (spoken "use" :: (Phrase.ofText v ++ [spoken "for", spoken "the", Word.ofText t])) =
        some (pairDraft (85 / 100) [Word.ofText t] (Phrase.ofText v)) := by
    rw [useFor, after?_spoken, Phrase.after?, Option.bind_eq_bind, Option.bind_some, hsplit]
    dsimp only [Option.bind_eq_bind, Option.bind_some]
    rw [afterArticle?_the rfl, Option.map_some]
  have hwords : ∀ w ∈ spoken "use" :: (Phrase.ofText v ++
      [spoken "for", spoken "the", Word.ofText t]),
      w = Word.ofText t ∨ w.folded ∉ ["should", "be"] := by
    have hmiddle : ∀ x ∈ ["should", "be"], x ∈ middleWords := by decide
    simp only [List.forall_mem_cons, List.forall_mem_append]
    exact ⟨.inr (by decide), fun w hw => .inr fun hmem => hv.apart w hw (hmiddle _ hmem),
      .inr (by decide), .inr (by decide), .inl trivial, List.forall_mem_nil _⟩
  refine isRead_of ht hv (p := ["use"]) ?_ ?_ (by decide) hfront ?_
    (gives_pairDraft ht hv (85 / 100))
  · simp +contextual [phrasingWords, or_imp]
  · simp; omega
  · simp only [rules, List.drop_succ_cons, List.drop_zero, List.findSome?_cons,
      makeTarget_skips hfront rfl, verbTo_skips "change" hfront rfl,
      verbTo_skips "set" hfront rfl, wish_skips hfront (by decide),
      request_skips hfront (by decide), shouldBe_skips hfront rfl _ hwords, reading_of_some hrule]

theorem isRead_please : IsRead t v
    (spoken "please" :: spoken "set" :: spoken "the" :: Word.ofText t :: spoken "to" ::
      Phrase.ofText v) := by
  have hfront : ["please"] <+: (spoken "please" :: spoken "set" :: spoken "the" ::
      Word.ofText t :: spoken "to" :: Phrase.ofText v).map Word.folded := by simp [spoken]
  have hpair : Phrase.isPair (Word.ofText t :: spoken "to" :: Phrase.ofText v) = true := by
    simp [Phrase.isPair]
  have hplease : ∀ rest : Phrase, Phrase.afterAny? [["can", "you"], ["could", "you"], ["please"]]
      (spoken "please" :: rest) = some rest := by
    simp [Phrase.afterAny?, Phrase.after?, spoken]
  have hset : ∀ rest : Phrase, Phrase.afterAny? [["make"], ["change"], ["set"]]
      (spoken "set" :: rest) = some rest := by
    simp [Phrase.afterAny?, Phrase.after?, spoken]
  have hrule : request (spoken "please" :: spoken "set" :: spoken "the" :: Word.ofText t ::
      spoken "to" :: Phrase.ofText v) =
        some (splitDraft (85 / 100) (Word.ofText t :: spoken "to" :: Phrase.ofText v)) := by
    rw [request, hplease, Option.bind_eq_bind, Option.bind_some, hset, Option.bind_some,
      afterArticle?_the hpair, Option.map_some]
  refine isRead_of ht hv (p := ["please"]) ?_ ?_ (by decide) hfront ?_
    (gives_splitDraft ht hv (85 / 100) (ofPhrase_to hv _))
  · simp +contextual [phrasingWords, or_imp]
  · simp; omega
  · simp only [rules, List.drop_succ_cons, List.drop_zero, List.findSome?_cons,
      makeTarget_skips hfront rfl, verbTo_skips "change" hfront rfl,
      verbTo_skips "set" hfront rfl, wish_skips hfront (by decide),
      reading_of_some hrule]

end Six

theorem isRead_text {t v text : String} {ws : Phrase} (h : IsRead t v ws)
    (htext : Phrase.ofText text = ws) :
    ∃ d : Draft, parse text = .ok { d with raw := text } ∧ Gives t v d := by
  obtain ⟨d, hd, hg⟩ := h
  refine ⟨d, ?_, hg⟩
  rw [parse, htext, hd]
  rfl

/-- **The explicit phrasings agree**: whichever of them is used, a target of one word and a word
for a colour are read as the command that gives this target, or the selection if the word refers
to it, this value. -/
theorem explicit_phrasings_agree {t v : String} (ht : IsWord t.toList)
    (hv : v ∈ colorWords.keys) : ∀ text ∈ explicitPhrasings t v,
      ∃ d : Draft, parse text = .ok { d with raw := text } ∧ Gives t v d := by
  have hplain := plainValue_of_color v hv
  have hphrase : ∀ (texts : List String) {text : String}, text = unwords texts →
      Phrase.ofText text = texts.flatMap Phrase.ofText := by
    rintro texts _ rfl
    exact ofText_unwords texts
  have hwords := ofText_phrasingWords
  simp only [phrasingWords, List.forall_mem_cons] at hwords
  obtain ⟨hmake, hchange, hset, hthe, hto, hshould, hbe, huse, hfor, hplease, -⟩ := hwords
  simp only [explicitPhrasings, List.forall_mem_cons]
  refine ⟨isRead_text (isRead_make ht hplain) ?_, isRead_text (isRead_change ht hplain) ?_,
    isRead_text (isRead_set ht hplain) ?_, isRead_text (isRead_should ht hplain) ?_,
    isRead_text (isRead_use ht hplain) ?_, isRead_text (isRead_please ht hplain) ?_,
    List.forall_mem_nil _⟩
  · rw [hphrase ["make", "the", t, v] (by simp [← String.toList_inj, unwords])]
    simp [hmake, hthe, ofText_of_isWord ht]
  · rw [hphrase ["change", "the", t, "to", v] (by simp [← String.toList_inj, unwords])]
    simp [hchange, hthe, hto, ofText_of_isWord ht]
  · rw [hphrase ["set", "the", t, "to", v] (by simp [← String.toList_inj, unwords])]
    simp [hset, hthe, hto, ofText_of_isWord ht]
  · rw [hphrase ["the", t, "should", "be", v] (by simp [← String.toList_inj, unwords])]
    simp [hthe, hshould, hbe, ofText_of_isWord ht]
  · rw [hphrase ["use", v, "for", "the", t] (by simp [← String.toList_inj, unwords])]
    simp [huse, hfor, hthe, ofText_of_isWord ht]
  · rw [hphrase ["please", "set", "the", t, "to", v] (by simp [← String.toList_inj, unwords])]
    simp [hplease, hset, hthe, hto, ofText_of_isWord ht]

/-- "use light blue for the To" and the others, with a word of the phrasings as the target. -/
theorem explicit_phrasings_agree_to : IsWord "To".toList ∧ "light blue" ∈ colorWords.keys ∧
    ∀ text ∈ explicitPhrasings "To" "light blue",
      ∃ d : Draft, parse text = .ok { d with raw := text } ∧ Gives "To" "light blue" d :=
  have ht : IsWord "To".toList := ⟨by decide, by decide⟩
  have hv : "light blue" ∈ colorWords.keys := by decide +kernel
  ⟨ht, hv, explicit_phrasings_agree ht hv⟩

end Restyle.Command
