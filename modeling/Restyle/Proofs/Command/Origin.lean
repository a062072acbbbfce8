import Restyle.Command.Parse

/-!
# What commands are made of

A command is put together from words of the phrase that it was read from.  Whichever rule reads
the phrase, there are only a few ways to do so, and what holds of each of them holds of every
command.

* `styleDraft_about`, `styleDraft_asks` — what is said of a target and a value.
* `Draft.Origin` — the ways to make a style command.
* `Draft.Aside` — the ways to make a command of another kind.
* `rules_origin` — no rule has another one.
* `parse_origin` — nor has the guess that is made where no rule applies.
-/

set_option autoImplicit false

namespace Restyle.Command

open Restyle.Text Restyle.Vocabulary

variable {ws rest : Phrase} {d : Draft}

/-! ## Parts of a phrase -/

theorem after?_suffix {opening : List String} (h : Phrase.after? opening ws = some rest) :
    rest <:+ ws := by
  induction opening generalizing ws with
  | nil =>
    cases h
    exact List.suffix_refl rest
  | cons p ps ih =>
    cases ws with
    | nil => cases h
    | cons w ws =>
      rw [Phrase.after?] at h
      split at h
      · exact (ih h).trans (List.suffix_cons w ws)
      · cases h

theorem afterAny?_suffix {openings : List (List String)}
    (h : Phrase.afterAny? openings ws = some rest) : rest <:+ ws := by
  obtain ⟨o, -, ho⟩ := List.exists_of_findSome?_eq_some h
  exact after?_suffix ho

theorem skipping_suffix (openings : List (List String)) (ws : Phrase) :
    Phrase.skipping openings ws <:+ ws := by
  unfold Phrase.skipping
  cases h : Phrase.afterAny? openings ws with
  | none => exact List.suffix_refl ws
  | some rest => exact afterAny?_suffix h

theorem choices_suffix {openings : List (List String)} (h : rest ∈ Phrase.choices openings ws) :
    rest <:+ ws := by
  rcases List.mem_append.1 h with hm | hm
  · obtain ⟨o, -, ho⟩ := List.mem_filterMap.1 hm
    exact after?_suffix ho
  · obtain rfl := List.mem_singleton.1 hm
    exact List.suffix_refl rest

theorem afterArticle?_suffix {ok : Phrase → Bool} (h : Phrase.afterArticle? ok ws = some rest) :
    ok rest = true ∧ rest <:+ ws :=
  ⟨List.find?_some h, choices_suffix (List.mem_of_find?_eq_some h)⟩

theorem ne_nil_of_isPresent (h : ws.isPresent = true) : ws ≠ [] := by
  rintro rfl
  cases h

theorem two_le_of_isPair (h : ws.isPair = true) : 2 ≤ ws.length := of_decide_eq_true h

/-- A target and a value that are parts of a phrase of several words. -/
structure Phrase.Parts (ws target value : Phrase) : Prop where
  several : 2 ≤ ws.length
  named : target ≠ []
  told : value ≠ []
  target : target ⊆ ws
  value : value ⊆ ws

variable {target value : Phrase}

theorem Phrase.Parts.of_suffix (h : rest.Parts target value) (hs : rest <:+ ws) :
    ws.Parts target value where
  several := Nat.le_trans h.several hs.length_le
  named := h.named
  told := h.told
  target := List.Subset.trans h.target hs.subset
  value := List.Subset.trans h.value hs.subset

theorem splitAroundFrom_parts {middles : List (List String)} {before left right : Phrase}
    (h : Phrase.splitAroundFrom middles before ws = some (left, right)) :
    2 ≤ ws.length ∧ left ≠ [] ∧ left ⊆ before ++ ws ∧ right ≠ [] ∧ right ⊆ ws := by
  induction ws generalizing before with
  | nil => cases h
  | cons w ws ih =>
    rw [Phrase.splitAroundFrom] at h
    split at h
    · rename_i r hr
      cases h
      obtain ⟨m, -, hm⟩ := List.mem_filterMap.1 (List.mem_of_find?_eq_some hr)
      have hsuffix := after?_suffix hm
      have hpresent := ne_nil_of_isPresent (List.find?_some hr)
      refine ⟨?_, by simp, ?_, hpresent, List.subset_cons_of_subset w hsuffix.subset⟩
      · have hpos := List.length_pos_iff.2 hpresent
        have hle := hsuffix.length_le
        simp only [List.length_cons]
        omega
      · exact List.append_subset.2 ⟨List.subset_append_left _ _,
          List.subset_append_of_subset_right _ (by simp)⟩
    · obtain ⟨hlen, hne, hl, hpresent, hr⟩ := ih h
      rw [List.append_assoc, List.singleton_append] at hl
      refine ⟨?_, hne, hl, hpresent, List.subset_cons_of_subset w hr⟩
      simp only [List.length_cons]
      omega

/-- What stands on the two sides of a middle. -/
theorem splitAround?_parts {middles : List (List String)} {left right : Phrase}
    (h : Phrase.splitAround? middles ws = some (left, right)) :
    ws.Parts left right ∧ ws.Parts right left := by
  obtain ⟨hlen, hleft, hl, hright, hr⟩ := splitAroundFrom_parts h
  exact ⟨⟨hlen, hleft, hright, hl, hr⟩, ⟨hlen, hright, hleft, hr, hl⟩⟩

/-- What is taken off the front of a value. -/
inductive TakenCase (ws : Phrase) : Prop
  | taken (w : Word) (rest : Phrase) (direction : Direction) (present : rest ≠ [])
    (phrase : ws = w :: rest) (said : w.lowered = direction.name)
    (cut : Split.takeDirection ws = (some direction, rest))
  /-- The value is one word, or begins with neither "more" nor "less". -/
  | kept (free : ∀ w v rest, ws = w :: v :: rest → w.lowered ∉ ["more", "less"])
    (cut : Split.takeDirection ws = (none, ws))

theorem takeDirection_cases (ws : Phrase) : TakenCase ws := by
  rcases ws with _ | ⟨w, _ | ⟨v, rest⟩⟩
  · exact .kept nofun rfl
  · exact .kept nofun rfl
  · by_cases more : w.lowered = "more"
    · exact .taken w (v :: rest) .more (List.cons_ne_nil v rest) rfl more
        (by rw [Split.takeDirection, if_pos more])
    · by_cases less : w.lowered = "less"
      · exact .taken w (v :: rest) .less (List.cons_ne_nil v rest) rfl less
          (by rw [Split.takeDirection, if_neg more, if_pos less])
      · refine .kept ?_ (by rw [Split.takeDirection, if_neg more, if_neg less])
        rintro u v' rest' ⟨⟩
        simp [more, less]

theorem takeDirection_suffix (ws : Phrase) : (Split.takeDirection ws).2 <:+ ws := by
  cases takeDirection_cases ws with
  | taken w rest direction present phrase said cut =>
    rw [cut, phrase]
    exact List.suffix_cons w rest
  | kept free cut => simp [cut]

theorem takeDirection_ne_nil (h : ws ≠ []) : (Split.takeDirection ws).2 ≠ [] := by
  cases takeDirection_cases ws with
  | taken w rest direction present phrase said cut => rwa [cut]
  | kept free cut => rwa [cut]

/-- A value without a "more" or "less" to take off is left as it is. -/
theorem takeDirection_of_free (h : ∀ w v rest, ws = w :: v :: rest → w.lowered ∉ ["more", "less"]) :
    Split.takeDirection ws = (none, ws) := by
  cases takeDirection_cases ws with
  | taken w rest direction present phrase said cut =>
    obtain ⟨v, rest, rfl⟩ := List.exists_cons_of_ne_nil present
    refine absurd ?_ (h w v rest phrase)
    rw [said]
    cases direction <;> decide
  | kept free cut => exact cut

theorem atWord_parts {k : Nat} (h : k + 1 < ws.length) :
    ws.Parts (Split.atWord ws (k + 1)).target (Split.atWord ws (k + 1)).value where
  several := by omega
  named := by
    obtain ⟨w, rest, rfl⟩ := List.exists_cons_of_length_pos (Nat.zero_lt_of_lt h)
    exact List.cons_ne_nil w (rest.take k)
  told := takeDirection_ne_nil (mt List.drop_eq_nil_iff.1 (Nat.not_le.2 h))
  target := List.take_subset (k + 1) ws
  value := ((takeDirection_suffix _).trans (List.drop_suffix (k + 1) ws)).subset

/-- A phrase that is cut into target and value. -/
theorem ofPhrase_parts (h : 2 ≤ ws.length) :
    ws.Parts (Split.ofPhrase ws).target (Split.ofPhrase ws).value := by
  unfold Split.ofPhrase
  split
  · rename_i target value hs
    exact (splitAround?_parts hs).1
  · unfold Split.byValue
    dsimp only
    cases hf : ((List.range (ws.length - 1)).map fun k =>
        Split.atWord ws (k + 1)).find? Split.hasValuePhrase with
    | none => exact atWord_parts h
    | some cut =>
      obtain ⟨k, hk, rfl⟩ := List.mem_map.1 (List.mem_of_find?_eq_some hf)
      exact atWord_parts (by have := List.mem_range.1 hk; omega)

/-- What stands on the two sides of an equals sign. -/
theorem splitAtEquals?_eq_some {cs target value : List Char}
    (h : splitAtEquals? cs = some (target, value)) :
    cs = target ++ '=' :: value ∧ target ≠ [] ∧ value ≠ [] := by
  unfold splitAtEquals? at h
  split at h
  · cases h
  · rename_i c rest
    split at h
    · rename_i e v after he
      cases h
      have hne : rest.dropWhile (· != '=') ≠ [] := by simp [he]
      have hhead := List.head_dropWhile_not (· != '=') hne
      simp only [he, List.head_cons, bne_eq_false_iff_eq] at hhead
      subst hhead
      refine ⟨?_, List.cons_ne_nil c _, List.cons_ne_nil v _⟩
      rw [List.cons_append, ← he, List.takeWhile_append_dropWhile]
    · cases h

/-! ## Style commands -/

/-- What a style command is about. -/
inductive AboutCase (target : String) (d : Draft) : Prop
  | selection (contextual : dropArticle (trim target) ∈ contextualWords)
    (about : d.target = some contextualTarget) (scope : d.scope = some .selected)
  | named (own : dropArticle (trim target) ∉ contextualWords)
    (about : d.target = some (dropArticle (trim target))) (scope : d.scope = none)

/-- What a style command asks for. -/
inductive AsksCase (value : String) (direction : Option Direction) (d : Draft) : Prop
  | said (plain : direction = none → comparativeOf? (trim value) = none)
    (asked : d.value = some (trim value)) (turned : d.direction = direction)
  /-- A comparative is its property, in the direction that it has. -/
  | comparative (property : String) (step : Direction) (untold : direction = none)
    (said : comparativeOf? (trim value) = some (property, step))
    (asked : d.value = some property) (turned : d.direction = some step)

section

variable (target value : String) (direction : Option Direction) (confidence : Rat)

theorem styleDraft_kind : (styleDraft target value direction confidence).kind = .style := by
  unfold styleDraft
  dsimp only
  split <;> rfl

theorem styleDraft_about : AboutCase target (styleDraft target value direction confidence) := by
  unfold styleDraft
  dsimp only
  split
  · rename_i contextual
    exact .selection (List.contains_iff_mem.1 contextual) rfl rfl
  · rename_i own
    exact .named (fun h => own (List.contains_iff_mem.2 h)) rfl rfl

theorem styleDraft_asks :
    AsksCase value direction (styleDraft target value direction confidence) := by
  unfold styleDraft
  dsimp only
  cases direction with
  | some direction => split <;> exact .said nofun rfl rfl
  | none =>
    cases said : comparativeOf? (trim value) with
    | none => split <;> exact .said (fun _ => said) rfl rfl
    | some meaning => split <;> exact .comparative meaning.1 meaning.2 rfl said rfl rfl

end

/-! ## Ways to make a command -/

/-- What is said about the selection, and in which direction. -/
inductive Phrase.Says (ws : Phrase) : String → Option Direction → Prop
  | step {part : Phrase} (within : part ⊆ ws) (direction : Direction) (told : part ≠ []) :
    Says ws part.lowered (some direction)
  | comparative {w : Word} (within : w ∈ ws) {property : String} {direction : Direction}
    (said : comparativeOf? w.lowered = some (property, direction)) :
    Says ws property (some direction)
  | color {w : Word} (within : w ∈ ws) (known : w.folded ∈ bareColors) : Says ws w.lowered none
  | shade {s w : Word} (shade : s ∈ ws) (color : w ∈ ws) :
    Says ws (s.lowered ++ "-" ++ w.lowered) none
  | colorWord (known : colorWords.has ws.lowered = true) : Says ws ws.lowered none

/-- A phrase that is no command but names a target and a value, with nothing, "to" or "is" between
them. -/
def Phrase.Juxtaposes (ws : Phrase) (target value : Word) : Prop :=
  ws = [target, value] ∨
    ∃ middle : Word, (middle.lowered = "to" ∨ middle.lowered = "is") ∧ ws = [target, middle, value]

theorem Phrase.Juxtaposes.mem {target value : Word} (h : ws.Juxtaposes target value) :
    target ∈ ws ∧ value ∈ ws := by
  rcases h with rfl | ⟨middle, -, rfl⟩ <;> simp

/-- What a command of another kind is told: a word or several, a word without an ending, the preset
of a phrase, or a text of its own. -/
inductive Phrase.Tells (ws : Phrase) : String → Prop
  | word {w : Word} (within : w ∈ ws) : Tells ws w.lowered
  | part {part : Phrase} (within : part ⊆ ws) (told : part ≠ []) : Tells ws part.lowered
  | stem {w : Word} (within : w ∈ ws) {ending stem value : String} (known : stem ≠ "")
    (ascii : ∀ c ∈ ending.toList, c.toNat < 0x80) (folded : dropEnding? ending w.folded = some stem)
    (lowered : dropEnding? ending w.lowered = some value) : Tells ws value
  | preset {phrase name : String} (meaning : presetPhrases.meaning? phrase = some name) :
    Tells ws name
  | text {value : String} (own : value ≠ "") : Tells ws value

/-- The ways to make a command of another kind. -/
inductive Draft.Aside (ws : Phrase) : Draft → Prop
  | bare {kind : IntentKind} (aside : kind ∈ [.unknown, .undo, .redo]) (confidence : Rat) :
    Aside ws { kind, confidence }
  | told {kind : IntentKind} (aside : kind ∈ [.mode, .preset]) {value : String}
    (tells : ws.Tells value) (confidence : Rat) : Aside ws { kind, confidence, value := some value }
  | layout {value : String} (tells : ws.Tells value) (confidence : Rat) :
    Aside ws (layoutDraft confidence value)
  | visibility {target : Phrase} (within : target ⊆ ws) (named : target ≠ []) (value : String)
    (confidence : Rat) : Aside ws (visibilityDraft value confidence target)

theorem Draft.Aside.kind (h : d.Aside ws) : d.kind ≠ .style := by
  cases h with
  | bare haside confidence =>
    rintro rfl
    exact absurd haside (by decide)
  | told haside htells confidence =>
    rintro rfl
    exact absurd haside (by decide)
  | layout htells confidence => exact nofun
  | visibility hwithin hnamed value confidence => exact nofun

/-- The ways to make a command of a phrase. -/
inductive Draft.Origin (ws : Phrase) : Draft → Prop
  /-- A command of another kind. -/
  | other {d : Draft} (aside : d.Aside ws) : Origin ws d
  /-- A target and a value. -/
  | parts {target value : Phrase} (parts : ws.Parts target value) (direction : Option Direction)
    (confidence : Rat) : Origin ws (styleDraft target.lowered value.lowered direction confidence)
  /-- A target and a value on the two sides of an equals sign. -/
  | equation {target value : List Char}
    (cut : splitAtEquals? ws.lowered.toList = some (target, value)) (confidence : Rat) :
    Origin ws (styleDraft (String.ofList target) (String.ofList value) none confidence)
  /-- Something about the selection. -/
  | selection {value : String} {direction : Option Direction} (said : ws.Says value direction)
    (confidence : Rat) : Origin ws (contextualDraft value direction confidence)
  /-- A comparative and a target. -/
  | comparative {w : Word} {rest target : Phrase} {property : String} {direction : Direction}
    (words : ws = w :: rest) (said : comparativeOf? w.lowered = some (property, direction))
    (article : Phrase.afterArticle? Phrase.isPresent rest = some target) :
    Origin ws {
      kind := .style
      confidence := 80 / 100
      target := some (dropArticle target.lowered)
      value := some property
      direction := some direction }
  /-- A guess. -/
  | guess {target value : Word} (words : ws.Juxtaposes target value) (confidence : Rat) :
    Origin ws {
      kind := .style
      confidence
      target := some (dropArticle target.lowered)
      value := some value.lowered }

/-! ## Commands of other kinds -/

theorem Phrase.Tells.of_subset {value : String} (h : rest.Tells value) (hs : rest ⊆ ws) :
    ws.Tells value := by
  cases h with
  | word hw => exact .word (hs hw)
  | part hpart hne => exact .part (List.Subset.trans hpart hs) hne
  | stem hw hknown hascii hfolded hlowered => exact .stem (hs hw) hknown hascii hfolded hlowered
  | preset hmeaning => exact .preset hmeaning
  | text hown => exact .text hown

/-- A command that a rule gives under a condition. -/
theorem Draft.aside_of_ite {p : Prop} [Decidable p] {e : Draft}
    (h : (if p then some e else none) = some d) (he : p → e.Aside ws) : d.Aside ws := by
  obtain ⟨hp, hd⟩ := Option.ite_none_right_eq_some.1 h
  cases hd
  exact he hp

theorem undo_aside (h : undo ws = some d) : d.Aside ws :=
  Draft.aside_of_ite h fun _ => .bare (by decide) _

theorem redo_aside (h : redo ws = some d) : d.Aside ws :=
  Draft.aside_of_ite h fun _ => .bare (by decide) _

theorem withEnding?_tells {stems endings : List String} {value : String} (hstems : "" ∉ stems)
    (hascii : ∀ ending ∈ endings, ∀ c ∈ ending.toList, c.toNat < 0x80)
    (h : withEnding? stems endings ws = some value) : ws.Tells value := by
  unfold withEnding? at h
  split at h
  · split at h
    · cases h
      exact .word List.mem_cons_self
    · obtain ⟨ending, hending, he⟩ := List.exists_of_findSome?_eq_some h
      obtain ⟨stem, hfolded, he⟩ := Option.bind_eq_some_iff.1 he
      obtain ⟨hmem, hlowered⟩ := Option.ite_none_right_eq_some.1 he
      have hknown : stem ≠ "" := by
        rintro rfl
        exact hstems (List.contains_iff_mem.1 hmem)
      exact .stem List.mem_cons_self hknown (hascii ending hending) hfolded hlowered
  · obtain ⟨-, hv⟩ := Option.ite_none_right_eq_some.1 h
    cases hv
    exact .word List.mem_cons_self
  · cases h

theorem modeByName_aside (h : modeByName ws = some d) : d.Aside ws := by
  obtain ⟨value, hv, rfl⟩ := Option.map_eq_some_iff.1 h
  have htells := withEnding?_tells (by decide) (by decide) hv
  exact .told (by decide) (htells.of_subset (skipping_suffix _ ws).subset) _

theorem modeToggle_aside (h : modeToggle ws = some d) : d.Aside ws := by
  obtain ⟨rest, -, h⟩ := Option.bind_eq_some_iff.1 h
  exact Draft.aside_of_ite h fun _ => .told (by decide) (.text (by decide)) _

theorem modeByAdjective_aside (h : modeByAdjective ws = some d) : d.Aside ws := by
  unfold modeByAdjective at h
  split at h
  · rename_i w hw
    refine Draft.aside_of_ite h fun _ => .told (by decide) ?_ _
    split
    · exact .text (by decide)
    · split
      · exact .text (by decide)
      · exact .word ((skipping_suffix _ ws).subset (hw ▸ List.mem_cons_self))
  · cases h

/-- The preset of something that is told, or what is told itself. -/
theorem presetDraft_aside {phrase : String} (h : ws.Tells phrase) (confidence : Rat) :
    (presetDraft confidence phrase).Aside ws := by
  refine .told (by decide) ?_ confidence
  cases hm : presetPhrases.meaning? phrase with
  | none => exact h
  | some name => exact .preset hm

theorem presetByAdjective_aside (h : presetByAdjective ws = some d) : d.Aside ws := by
  have hsuffix := (skipping_suffix [["look"]] _).trans (skipping_suffix [["make", "it"]] ws)
  unfold presetByAdjective at h
  split at h
  · rename_i w hw
    exact Draft.aside_of_ite h fun _ =>
      presetDraft_aside (.word (hsuffix.subset (hw ▸ List.mem_cons_self))) _
  · rename_i w e hw
    exact Draft.aside_of_ite h fun _ =>
      presetDraft_aside (.word (hsuffix.subset (hw ▸ List.mem_cons_self))) _
  · cases h

theorem presetByPhrase_aside (h : presetByPhrase ws = some d) : d.Aside ws := by
  refine Draft.aside_of_ite h fun hknown => presetDraft_aside (.part (List.Subset.refl ws) ?_) _
  rintro rfl
  exact absurd hknown (by decide)

theorem columns_aside (h : columns ws = some d) : d.Aside ws := by
  unfold columns at h
  split at h
  · exact Draft.aside_of_ite h fun _ => .layout (.text (by simp)) _
  · cases h

theorem sideOf?_aside {w : Word} (h : sideOf? w = some d) : d.Aside ws :=
  Draft.aside_of_ite h fun _ => .layout (.text (by simp)) _

theorem sidebarOn_aside (h : sidebarOn ws = some d) : d.Aside ws := by
  obtain ⟨rest, -, h⟩ := Option.bind_eq_some_iff.1 h
  split at h
  · exact sideOf?_aside h
  · cases h

theorem sidebarSide_aside (h : sidebarSide ws = some d) : d.Aside ws := by
  unfold sidebarSide at h
  split at h
  · exact sideOf?_aside (Option.ite_none_right_eq_some.1 h).2
  · cases h

theorem sideBySide_aside (h : sideBySide ws = some d) : d.Aside ws :=
  Draft.aside_of_ite h fun _ => .layout (.text (by decide)) _

theorem stacked_aside (h : stacked ws = some d) : d.Aside ws :=
  Draft.aside_of_ite h fun _ => .layout (.text (by decide)) _

theorem grid_aside (h : grid ws = some d) : d.Aside ws := by
  have hsuffix := (skipping_suffix [["a"]] _).trans (skipping_suffix makeIt ws)
  obtain ⟨value, hv, rfl⟩ := Option.map_eq_some_iff.1 h
  exact .layout ((withEnding?_tells (by decide) (by decide) hv).of_subset hsuffix.subset) _

theorem visibility_aside {value : String} {confidence : Rat}
    {openings articles : List (List String)}
    (h : visibility value confidence openings articles ws = some d) : d.Aside ws := by
  obtain ⟨rest, hr, h⟩ := Option.bind_eq_some_iff.1 h
  obtain ⟨target, ht, rfl⟩ := Option.map_eq_some_iff.1 h
  have hsuffix := (choices_suffix (List.mem_of_find?_eq_some ht)).trans (afterAny?_suffix hr)
  exact .visibility hsuffix.subset (ne_nil_of_isPresent (List.find?_some ht)) value confidence

/-! ## Explicit style commands -/

theorem splitDraft_origin (hs : rest <:+ ws) (hlen : 2 ≤ rest.length) (confidence : Rat) :
    (splitDraft confidence rest).Origin ws := by
  unfold splitDraft
  exact .parts ((ofPhrase_parts hlen).of_suffix hs) _ confidence

theorem makeTarget_origin (h : makeTarget ws = some d) : d.Origin ws := by
  obtain ⟨rest, hr, h⟩ := Option.bind_eq_some_iff.1 h
  obtain ⟨pair, hp, rfl⟩ := Option.map_eq_some_iff.1 h
  obtain ⟨hpair, hsuffix⟩ := afterArticle?_suffix hp
  exact splitDraft_origin (hsuffix.trans (after?_suffix hr)) (two_le_of_isPair hpair) _

theorem verbTo_origin {verb : String} (h : verbTo verb ws = some d) : d.Origin ws := by
  obtain ⟨rest, hr, h⟩ := Option.bind_eq_some_iff.1 h
  obtain ⟨⟨target, value⟩, hs, h⟩ := Option.bind_eq_some_iff.1 h
  obtain ⟨choice, hc, hs⟩ := List.exists_of_findSome?_eq_some hs
  obtain rfl := Option.some.inj h
  have hsuffix := (choices_suffix hc).trans (after?_suffix hr)
  exact .parts ((splitAround?_parts hs).1.of_suffix hsuffix) none _

theorem wish_origin (h : wish ws = some d) : d.Origin ws := by
  obtain ⟨said, hs, h⟩ := Option.bind_eq_some_iff.1 h
  obtain ⟨rest, hr, h⟩ := Option.bind_eq_some_iff.1 h
  obtain ⟨pair, hp, rfl⟩ := Option.map_eq_some_iff.1 h
  obtain ⟨hwish, hsuffix⟩ := afterArticle?_suffix hp
  have hpair : pair.isPair = true := (Bool.and_eq_true_iff.1 hwish).1
  exact splitDraft_origin (hsuffix.trans ((afterAny?_suffix hr).trans (afterAny?_suffix hs)))
    (two_le_of_isPair hpair) _

theorem request_origin (h : request ws = some d) : d.Origin ws := by
  obtain ⟨said, hs, h⟩ := Option.bind_eq_some_iff.1 h
  obtain ⟨rest, hr, h⟩ := Option.bind_eq_some_iff.1 h
  obtain ⟨pair, hp, rfl⟩ := Option.map_eq_some_iff.1 h
  obtain ⟨hpair, hsuffix⟩ := afterArticle?_suffix hp
  exact splitDraft_origin (hsuffix.trans ((afterAny?_suffix hr).trans (afterAny?_suffix hs)))
    (two_le_of_isPair hpair) _

theorem shouldBe_origin (h : shouldBe ws = some d) : d.Origin ws := by
  obtain ⟨⟨target, value⟩, hs, h⟩ := Option.bind_eq_some_iff.1 h
  obtain ⟨choice, hc, hs⟩ := List.exists_of_findSome?_eq_some hs
  obtain rfl := Option.some.inj h
  exact .parts ((splitAround?_parts hs).1.of_suffix (choices_suffix hc)) none _

theorem useFor_origin (h : useFor ws = some d) : d.Origin ws := by
  obtain ⟨rest, hr, h⟩ := Option.bind_eq_some_iff.1 h
  obtain ⟨⟨value, place⟩, hs, h⟩ := Option.bind_eq_some_iff.1 h
  dsimp only at h
  obtain ⟨target, ht, rfl⟩ := Option.map_eq_some_iff.1 h
  obtain ⟨hpresent, hsuffix⟩ := afterArticle?_suffix ht
  have hparts := (splitAround?_parts hs).2
  have htarget : rest.Parts target value :=
    ⟨hparts.several, ne_nil_of_isPresent hpresent, hparts.told,
      List.Subset.trans hsuffix.subset hparts.target, hparts.value⟩
  exact .parts (htarget.of_suffix (after?_suffix hr)) none _

theorem assignment_origin (h : assignment ws = some d) : d.Origin ws := by
  obtain ⟨⟨target, value⟩, hs, rfl⟩ := Option.map_eq_some_iff.1 h
  exact .equation hs _

/-! ## Relative style commands -/

theorem moreOrLess_origin {direction : Direction} (h : moreOrLess direction ws = some d) :
    d.Origin ws := by
  obtain ⟨rest, hr, h⟩ := Option.bind_eq_some_iff.1 h
  obtain ⟨hpresent, hd⟩ := Option.ite_none_right_eq_some.1 h
  cases hd
  have hne := ne_nil_of_isPresent hpresent
  exact .selection (.step (after?_suffix hr).subset direction hne) _

theorem comparativeAlone_origin (h : comparativeAlone ws = some d) : d.Origin ws := by
  unfold comparativeAlone at h
  split at h
  · obtain ⟨⟨property, direction⟩, hc, rfl⟩ := Option.map_eq_some_iff.1 h
    exact .selection (.comparative List.mem_cons_self hc) _
  · cases h

theorem comparativeTarget_origin (h : comparativeTarget ws = some d) : d.Origin ws := by
  unfold comparativeTarget at h
  split at h
  · obtain ⟨⟨property, direction⟩, hc, h⟩ := Option.bind_eq_some_iff.1 h
    obtain ⟨target, ht, hd⟩ := Option.bind_eq_some_iff.1 h
    cases hd
    exact .comparative rfl hc ht
  · cases h

/-! ## Colours on their own -/

theorem bareColor_origin (h : bareColor ws = some d) : d.Origin ws := by
  unfold bareColor at h
  split at h
  · obtain ⟨hknown, hd⟩ := Option.ite_none_right_eq_some.1 h
    cases hd
    exact .selection (.color List.mem_cons_self (List.contains_iff_mem.1 hknown)) _
  · cases h

theorem shadedColor_origin (h : shadedColor ws = some d) : d.Origin ws := by
  unfold shadedColor at h
  split at h
  · obtain ⟨-, hd⟩ := Option.ite_none_right_eq_some.1 h
    cases hd
    exact .selection (.shade (by simp) (by simp)) _
  · cases h

theorem knownColor_origin (h : knownColor ws = some d) : d.Origin ws := by
  obtain ⟨hknown, hd⟩ := Option.ite_none_right_eq_some.1 h
  cases hd
  exact .selection (.colorWord hknown) _

/-! ## All rules -/

/-- A rule whose commands are made in one of the ways. -/
def Rule.Originates (rule : Rule) : Prop := ∀ ws d, rule ws = some (.ok d) → d.Origin ws

theorem originates_reading {rule : Phrase → Option Draft}
    (h : ∀ {ws d}, rule ws = some d → d.Origin ws) : Rule.Originates (reading rule) := by
  intro ws d hd
  obtain ⟨e, he, hok⟩ := Option.map_eq_some_iff.1 hd
  cases hok
  exact h he

/-- A rule for commands of other kinds. -/
theorem originates_aside {rule : Phrase → Option Draft}
    (h : ∀ {ws d}, rule ws = some d → d.Aside ws) : Rule.Originates (reading rule) :=
  originates_reading fun hd => .other (h hd)

theorem aBit_originates : Rule.Originates aBit := by
  intro ws d h
  obtain ⟨rest, hr, h⟩ := Option.bind_eq_some_iff.1 h
  have hsuffix : rest <:+ ws := (afterAny?_suffix hr).trans (skipping_suffix _ ws)
  split at h
  · rename_i w v value
    obtain ⟨-, hd⟩ := Option.ite_none_right_eq_some.1 h
    cases ho : Direction.ofWord w.lowered with
    | error e =>
      rw [ho] at hd
      cases hd
    | ok direction =>
      rw [ho] at hd
      cases hd
      have hwithin := ((List.suffix_cons w _).trans hsuffix).subset
      exact .selection (.step hwithin direction (List.cons_ne_nil v value)) _
  · cases h

/-- **The commands of every rule are made in one of the ways.** -/
theorem rules_origin : ∀ rule ∈ rules, Rule.Originates rule := by
  simp only [rules, List.forall_mem_cons]
  exact ⟨originates_aside undo_aside, originates_aside redo_aside,
    originates_aside modeByName_aside, originates_aside modeToggle_aside,
    originates_aside modeByAdjective_aside, originates_aside presetByAdjective_aside,
    originates_aside presetByPhrase_aside, originates_aside columns_aside,
    originates_aside sidebarOn_aside, originates_aside sidebarSide_aside,
    originates_aside sideBySide_aside, originates_aside stacked_aside, originates_aside grid_aside,
    originates_reading makeTarget_origin, originates_reading verbTo_origin,
    originates_reading verbTo_origin, originates_reading wish_origin,
    originates_reading request_origin, originates_reading shouldBe_origin,
    originates_reading useFor_origin, originates_reading assignment_origin,
    originates_reading moreOrLess_origin, originates_reading moreOrLess_origin, aBit_originates,
    originates_reading comparativeAlone_origin, originates_reading comparativeTarget_origin,
    originates_aside visibility_aside, originates_aside visibility_aside,
    originates_aside visibility_aside, originates_aside visibility_aside,
    originates_reading bareColor_origin, originates_reading shadedColor_origin,
    originates_reading knownColor_origin, List.forall_mem_nil _⟩

/-! ## Guesses, phrases and texts -/

theorem unknownDraft_origin : unknownDraft.Origin ws :=
  .other (.bare (by decide) _)

theorem guessDraft_origin {target value : Word} (h : ws.Juxtaposes target value)
    (confidence : Rat) : (guessDraft confidence target value).Origin ws := by
  unfold guessDraft
  split
  · exact .guess h confidence
  · exact unknownDraft_origin

theorem guess_origin (ws : Phrase) : (guess ws).Origin ws := by
  unfold guess
  split
  · exact guessDraft_origin (.inl rfl) _
  · split
    · rename_i hm
      exact guessDraft_origin (.inr ⟨_, by simpa using hm, rfl⟩) _
    · exact unknownDraft_origin
  · exact unknownDraft_origin

theorem readPhrase_origin (h : readPhrase ws = .ok d) : d.Origin ws := by
  unfold readPhrase at h
  split at h
  · cases h
    exact unknownDraft_origin
  · split at h
    · rename_i preset hmeaning
      cases h
      exact .other (.told (by decide) (.preset hmeaning) _)
    · cases hf : rules.findSome? fun rule => rule ws with
      | none =>
        rw [hf] at h
        cases h
        exact guess_origin ws
      | some r =>
        obtain ⟨rule, hm, hr⟩ := List.exists_of_findSome?_eq_some hf
        rw [hf] at h
        obtain rfl : r = .ok d := h
        exact rules_origin rule hm ws d hr

/-- **What a text is understood as is made of its words in one of the ways.** -/
theorem parse_origin {text : String} {i : Intent} (h : parse text = .ok i) :
    i.toDraft.Origin (Phrase.ofText text) := by
  unfold parse at h
  cases hd : readPhrase (Phrase.ofText text) with
  | error e =>
    rw [hd] at h
    cases h
  | ok d =>
    rw [hd] at h
    cases h
    exact readPhrase_origin hd

end Restyle.Command
