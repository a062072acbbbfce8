import Restyle.Proofs.Assoc
import Restyle.Proofs.Color.HslPair
import Restyle.Proofs.Interpreter.ModeNames
import Restyle.Proofs.Matching.EditScript

/-!
# Colours with a component missing

A surface takes a colour as it is written only when the text is a notation.  An `hsl(…)` with two
components is none as long as its first component cannot be cut in two.  Then it can only be looked
up as a word, and no word is near it or sounds like it: nothing is written.  Where the first
component can be cut, the text is written as the colour that the parts make.

* `propertyOf?_hslPair`, `bestMatch?_hslPair`, `planPreset_hslPair` — a text with two components is
  no word.
* `writes_planIntent` — what is written for an intent with such a value.
* `two_components_refused` — texts with two components.
* `cut_component_written` — one that is written all the same.
-/

set_option autoImplicit false

namespace Restyle.Interpreter

open Restyle.Change Restyle.Color Restyle.Command Restyle.Matching Restyle.Store Restyle.Target
  Restyle.Text Restyle.Vocabulary

variable {settings : Settings} {store : TokenStore} {intent : Intent}
  {selection : Option Selection} {x y : Component} {v : String}

/-! ## No word -/

/-- The phrases of properties are made of small letters, at least three of them, and spaces. -/
theorem relativeWords_rows : ∀ phrase ∈ Assoc.keys relativeWords, '(' ∉ phrase.toList ∧
    phrase ≠ "hsl" ∧ 3 ≤ phrase.toList.length ∧
    ∀ c ∈ phrase.toList, isBlank c = false → c.isLower = true := by
  decide +kernel

/-- A text with two components names no property. -/
theorem propertyOf?_hslPair (hp : HslPair x y v.toList) (hx : x.Written) (hy : y.Written) :
    propertyOf? v = none := by
  have hlow := hp.lower hx hy
  have hphrase : relativeWords.lookup (unwords (words (lower v))) = none := by
    apply Assoc.get?_of_not_mem
    intro hkey
    -- the bracket stands in one of the words, and so in the phrase
    obtain ⟨w, hw, hbracket⟩ := exists_mem_wordChars (by decide) hlow.bracket_mem
    have hword : String.ofList w ∈ words (unwords (words (lower v))) := by
      rw [words_unwords_of_isWord fun _ h => isWord_of_mem_words h]
      exact List.mem_map_of_mem hw
    obtain ⟨w', hw', he⟩ := List.mem_map.1 hword
    obtain rfl := String.ofList_injective he
    exact (relativeWords_rows _ hkey).1 (((wordChars_isInfix _).1 w' hw').subset hbracket)
  have hwords : ∀ word ∈ words (lower v), relativeWords.lookup word = none := by
    intro word hword
    apply Assoc.get?_of_not_mem
    intro hkey
    obtain ⟨-, hne, hlength, hletters⟩ := relativeWords_rows word hkey
    obtain ⟨w, hw, rfl⟩ := List.mem_map.1 hword
    rw [String.toList_ofList] at hlength hletters
    have hlower := fun c hc => hletters c hc ((isWord_of_mem_wordChars hw).2 c hc)
    rw [hlow.eq_hsl hx hy ((wordChars_isInfix _).1 w hw) hlower hlength] at hne
    exact hne rfl
  unfold propertyOf?
  dsimp only
  rw [hphrase]
  exact List.findSome?_eq_none_iff.2 hwords

/-- Neither the names of presets nor the phrases for them have a bracket. -/
theorem presets_rows : (∀ phrase ∈ Assoc.keys presetPhrases, '(' ∉ phrase.toList) ∧
    ∀ preset ∈ presets, '(' ∉ preset.name.toList := by
  decide +kernel

/-- A text with two components names no preset. -/
theorem planPreset_hslPair {rule : ForegroundRule} (hp : HslPair x y v.toList) (hx : x.Written)
    (hy : y.Written) (hvalue : intent.value = some v) :
    (planPreset rule store intent).writes = [] := by
  have hkey := hp.tableKey hx hy
  have hphrase : presetPhrases.meaning? (tableKey v) = none := by
    rw [Table.meaning?, tableKey_tableKey]
    exact Assoc.get?_of_not_mem fun h => presets_rows.1 _ h hkey.bracket_mem
  have hname : preset? (tableKey v) = none := by
    rw [preset?, List.find?_eq_none]
    intro preset hm he
    rw [beq_iff_eq] at he
    exact presets_rows.2 preset hm (he ▸ hkey.bracket_mem)
  unfold planPreset
  rw [hvalue]
  simp only [Option.getD_some, hphrase, Option.getD_none, hname]
  rfl

/-! ## No value -/

/-- The words for values. -/
def valueWords : List String :=
  colorValues.keys ++ colorWords.keys ++ (radiusValues.keys ++ radiusWords.keys) ++
    scales.flatMap fun s => s.aliases.keys ++ s.values.keys

theorem valueWords_rows : ∀ word ∈ valueWords, isSmall word = true ∧
    ∀ c ∈ byteChars word, pairSigns.contains c = false := by
  decide +kernel

theorem valueWords_signs {word : String} (h : word ∈ valueWords) :
    lower word = word ∧ ∀ c ∈ word.toList, pairSigns.contains c = false := by
  obtain ⟨hsmall, hsigns⟩ := valueWords_rows word h
  rw [toList_of_isSmall hsmall]
  exact ⟨lower_of_isSmall hsmall, hsigns⟩

/-- A text with two components is no word for a value. -/
theorem HslPair.not_mem_valueWords (hp : HslPair x y v.toList) : v ∉ valueWords := by
  intro h
  have hbracket := (valueWords_signs h).2 _ hp.bracket_mem
  exact absurd hbracket (by decide)

/-- The sound codes of a text with two components. -/
def pairCodes : List (List Char) := [['H', '2', '4', '0'], ['H', '4', '0', '0']]

/-- No colour sounds like such a text. -/
theorem colorValues_sounds : ∀ name ∈ colorValues.keys,
    soundCodeChars (soundLetters (byteChars name)) ∉ pairCodes := by
  decide +kernel

theorem HslPair.sound (hp : HslPair x y v.toList) (hx : x.Written) (hy : y.Written) :
    soundCodeChars (soundLetters v.toList) ∈ pairCodes := by
  have hcodes : ∀ letters ∈ [['h', 's', 'l'], ['h', 'l']], soundCodeChars letters ∈ pairCodes := by
    decide
  exact hcodes _ (hp.filter_lowered hx hy)

variable {ρ : Rounding} {limits : Limits} {candidates : List String}

/-- It is four edits away from every word for a value. -/
theorem HslPair.four_le_editDistance (hp : HslPair x y v.toList) {word : String}
    (hword : word ∈ valueWords) : 4 ≤ editDistance v word := by
  rw [editDistance]
  exact hp.four_signs.trans (countP_le_editDistanceChars (valueWords_signs hword).2)

/-- It sounds like no colour. -/
theorem HslPair.not_soundsLike (hp : HslPair x y v.toList) (hx : x.Written) (hy : y.Written)
    {word : String} (hword : word ∈ colorValues.keys) (hsmall : isSmall word = true) :
    soundsLike v word = false := by
  rw [Bool.eq_false_iff]
  intro hlike
  have hcode := HslPair.sound hp hx hy
  rw [soundCodeChars_eq hlike, toList_of_isSmall hsmall] at hcode
  exact colorValues_sounds word hword hcode

/-- It begins no word for a value. -/
theorem HslPair.not_isPrefixOf (hp : HslPair x y v.toList) {word : String}
    (hword : word ∈ valueWords) : v.toList.isPrefixOf word.toList = false := by
  rw [Bool.eq_false_iff]
  intro hpre
  have hbracket := (List.isPrefixOf_iff_prefix.1 hpre).subset hp.bracket_mem
  exact absurd ((valueWords_signs hword).2 _ hbracket) (by decide)

/-- **No word for a value matches a text with two components**: it has four signs that no word
has, and sounds like none. -/
theorem bestMatch?_hslPair (hp : HslPair x y v.toList) (hx : x.Written) (hy : y.Written)
    (hdistance : limits.maxDistance ≤ 3) (hwords : ∀ c ∈ candidates, c ∈ valueWords)
    (hsound : limits.usePhonetic = true → ∀ c ∈ candidates, c ∈ colorValues.keys) :
    bestMatch? ρ limits v candidates = none := by
  have hkey : HslPair x y (trim (lower v)).toList := hp.tableKey hx hy
  have hfind : candidates.find? (fun c => lower c == trim (lower v)) = none := by
    rw [List.find?_eq_none]
    intro c hc he
    rw [beq_iff_eq, (valueWords_signs (hwords c hc)).1] at he
    exact HslPair.not_mem_valueWords hkey (he ▸ hwords c hc)
  have hsignals : candidates.flatMap (signals ρ limits (trim (lower v))) = [] := by
    rw [List.flatMap_eq_nil_iff]
    intro c hc
    have hfar : ¬(editDistance (trim (lower v)) c : Int) ≤ limits.maxDistance := by
      have hfour := HslPair.four_le_editDistance hkey (hwords c hc)
      omega
    have hunlike : (limits.usePhonetic && soundsLike (trim (lower v)) c) = false := by
      rw [Bool.and_eq_false_imp]
      intro hphonetic
      exact HslPair.not_soundsLike hkey hx hy (hsound hphonetic c hc)
        (valueWords_rows c (hwords c hc)).1
    have hbegin := HslPair.not_isPrefixOf hkey (hwords c hc)
    rw [← (valueWords_signs (hwords c hc)).1] at hfar hunlike hbegin
    exact signals_eq_nil_of hfar hunlike hbegin
  unfold bestMatch?
  dsimp only
  rw [hfind, hsignals]
  rfl

theorem colorMaxDistance_le (t : Tolerance) : t.thresholds.colorMaxDistance ≤ 3 := by
  cases t <;> decide

/-- Such a text is not found in the table of a kind of value. -/
theorem findKnown?_hslPair (hp : HslPair x y v.toList) (hx : x.Written) (hy : y.Written)
    {values synonyms : Table} (hvalues : ∀ word ∈ values.keys, word ∈ valueWords)
    (hsynonyms : ∀ word ∈ synonyms.keys, word ∈ valueWords) :
    findKnown? values synonyms v = none := by
  have hknown : values.lookup v = none :=
    Assoc.get?_of_not_mem fun h => HslPair.not_mem_valueWords hp (hvalues v h)
  have hsynonym : synonyms.meaning? v = none :=
    Assoc.get?_of_not_mem fun h =>
      HslPair.not_mem_valueWords (hp.tableKey hx hy) (hsynonyms _ h)
  rw [findKnown?, hknown, hsynonym]
  rfl

theorem valueOfTerm?_hslPair (hp : HslPair x y v.toList) (hx : x.Written) (hy : y.Written)
    {s : Scale} (hwords : ∀ word ∈ s.aliases.keys ++ s.values.keys, word ∈ valueWords) :
    s.valueOfTerm? v = none := by
  have hkey := HslPair.not_mem_valueWords (hp.tableKey hx hy)
  have hvalue : s.values.has (tableKey v) = false := by
    rw [← Bool.not_eq_true, has_iff_mem_keys]
    exact fun h => hkey (hwords _ (List.mem_append_right _ h))
  have halias : s.aliases.lookup (tableKey v) = none :=
    Assoc.get?_of_not_mem fun h => hkey (hwords _ (List.mem_append_left _ h))
  rw [Scale.valueOfTerm?, Scale.lookup?, hvalue, if_neg Bool.false_ne_true, halias]
  rfl

/-- Size words are matched by their letters alone. -/
theorem bestMatch?_sizes (hp : HslPair x y v.toList) (hx : x.Written) (hy : y.Written)
    (t : Thresholds) (hwords : ∀ c ∈ candidates, c ∈ valueWords) :
    bestMatch? ρ (sizeLimits t) v candidates = none := by
  have hdistance : (sizeLimits t).maxDistance = 2 := rfl
  exact bestMatch?_hslPair hp hx hy (by omega) hwords fun h => absurd h Bool.false_ne_true

/-- **A text with two components that is no notation is no value.** -/
theorem absoluteValue_hslPair (hp : HslPair x y v.toList) (hx : x.Written) (hy : y.Written)
    (hraw : isNotation v = false) (t : Tolerance) (token : String) :
    absoluteValue t.thresholds token v = none := by
  have hkey := hp.tableKey hx hy
  unfold absoluteValue
  split
  · have hradii : ∀ word ∈ radiusValues.keys, word ∈ valueWords := fun _ h => by
      simp [valueWords, h]
    rw [lookupRadius, findKnown?_hslPair hkey hx hy hradii fun _ h => by simp [valueWords, h],
      findNearest?, bestMatch?_sizes hkey hx hy _ hradii]
    rfl
  · split
    · rename_i s hs
      have hscale : ∀ word ∈ s.aliases.keys ++ s.values.keys, word ∈ valueWords := fun _ h =>
        List.mem_append_right _ (List.mem_flatMap.2 ⟨s, (scale?_mem hs).1, h⟩)
      rw [lookupScale, valueOfTerm?_hslPair hp hx hy hscale]
      dsimp only
      rw [bestMatch?_sizes hkey hx hy _ hscale]
      rfl
    · have hcolors : ∀ word ∈ colorValues.keys, word ∈ valueWords := fun _ h => by
        simp [valueWords, h]
      rw [hraw, Bool.and_false, if_neg Bool.false_ne_true, lookupColor,
        findKnown?_hslPair hkey hx hy hcolors fun _ h => by simp [valueWords, h],
        findNearest?, bestMatch?_hslPair hkey hx hy (colorMaxDistance_le t) hcolors fun _ _ h => h]
      rfl

/-! ## Nothing is written -/

theorem writes_planMode (current : Mode) (value : Option String) :
    ∀ w ∈ (planMode current value).writes, w.target = "mode" := by
  intro w hw
  rw [List.mem_singleton.1 hw]
  rfl

theorem writes_planAbsolute (hp : HslPair x y v.toList) (hx : x.Written) (hy : y.Written)
    (hvalue : intent.value = some v) (hraw : isNotation (tableKey v) = false)
    (settings : Settings) (binding : Binding) :
    (planAbsolute settings intent binding).writes = [] := by
  have hkey := hp.tableKey hx hy
  unfold planAbsolute
  rw [hvalue]
  dsimp only [Option.getD_some]
  rw [Settings.thresholds, normalizeValue, ← tableKey, absoluteValue_hslPair hkey hx hy hraw]
  rfl

/-- A step of what names no property fails. -/
theorem writes_planRelative {rule : ForegroundRule} {phrase : String}
    (h : propertyOf? phrase = none) (binding : Binding) (direction : Direction) :
    (planRelative rule store intent binding phrase direction).writes = [] := by
  unfold planRelative relativeChange
  dsimp only
  rw [h]
  rfl

theorem writes_planStyle (hp : HslPair x y v.toList) (hx : x.Written) (hy : y.Written)
    (hvalue : intent.value = some v) (hraw : isNotation (tableKey v) = false) :
    ∀ w ∈ (planStyle settings store intent selection).writes, w.target = "mode" := by
  cases planStyle_cases settings store intent selection with
  | unbound unknown resolved plan =>
    rw [plan]
    exact List.forall_mem_nil _
  | mode binding resolved category plan =>
    rw [plan]
    exact writes_planMode _ _
  | step binding direction phrase resolved category asks value present plan =>
    cases hvalue.symm.trans value
    rw [plan, writes_planRelative (propertyOf?_hslPair hp hx hy)]
    exact List.forall_mem_nil _
  | value binding resolved category noStep plan =>
    rw [plan, writes_planAbsolute hp hx hy hvalue hraw settings]
    exact List.forall_mem_nil _

/-- An intent with such a value switches the mode at most. -/
theorem writes_planIntent (hp : HslPair x y v.toList) (hx : x.Written) (hy : y.Written)
    (hvalue : intent.value = some v) (hraw : isNotation (tableKey v) = false) :
    ∀ w ∈ (planIntent settings store intent selection).writes, w.target = "mode" := by
  cases planIntent_cases settings store intent selection with
  | answer reply kind told plan =>
    rw [plan]
    exact List.forall_mem_nil _
  | mode kind plan =>
    rw [plan]
    exact writes_planMode _ _
  | preset kind plan =>
    rw [plan, planPreset_hslPair hp hx hy hvalue]
    exact List.forall_mem_nil _
  | style kind plan =>
    rw [plan]
    exact writes_planStyle hp hx hy hvalue hraw

/-- **Colours with two components**: such a text is a notation exactly when its first component
has two digits before the point or after it.  When it is none, no intent with this value writes a
token. -/
theorem two_components_refused {x y : Component} (hx : x.Written) (hy : y.Written) {v : String}
    (hv : HslPair x y v.toList) :
    (isNotation v = true ↔ 2 ≤ x.whole.length ∨ 2 ≤ x.fraction.length) ∧
    (x.whole.length < 2 → x.fraction.length < 2 →
      ∀ (s : Session) (intent : Intent) (selection : Option Selection) (key : Option String)
        (r : Result), intent.value = some v →
        (s.executeIntent intent selection key).outcome = .ok r →
        ∀ c ∈ r.changes, c.token = "mode") := by
  have hiff : ∀ {w : String}, HslPair x y w.toList →
      (isNotation w = true ↔ 2 ≤ x.whole.length ∨ 2 ≤ x.fraction.length) := by
    intro w hw
    have hraw := isNotation_hslPair hw hx hy
    rwa [String.ofList_toList] at hraw
  refine ⟨hiff hv, ?_⟩
  intro hwhole hfraction s intent selection key r hvalue hok c hc
  have hnone : isNotation (tableKey v) = false := by
    rw [← Bool.not_eq_true, hiff (hv.tableKey hx hy)]
    omega
  obtain ⟨w, hw, ht⟩ := exists_write_of_change hok hc
  rw [← ht, writes_planIntent hv hx hy hvalue hnone w hw]

/-- A component of digits. -/
def wholeComponent (digits : String) : Component := ⟨digits.toList, []⟩

theorem written_wholeComponent : ∀ digits ∈ ["5", "6", "10", "20"],
    (wholeComponent digits).Written := by
  intro digits hdigits
  simp only [List.mem_cons, List.not_mem_nil, or_false] at hdigits
  rcases hdigits with rfl | rfl | rfl | rfl
  all_goals exact ⟨by decide, by decide, by decide⟩

theorem hslPair_fiveSix :
    HslPair (wholeComponent "5") (wholeComponent "6") "hsl(5% , 6%)".toList :=
  @HslPair.intro _ _ "hsl".toList [] " , ".toList [] (by decide) (by decide)
    (@Gap.comma [' '] [' '] (by decide) (by decide)) (by decide)

/-- An intent that asks the mode for such a colour. -/
def modeFiveSix : Intent :=
  { kind := .style, confidence := 9 / 10, target := some "mode", value := some "hsl(5% , 6%)",
    raw := "set the mode to hsl(5% , 6%)" }

/-- "set the mode to hsl(5% , 6%)" toggles the mode. -/
theorem two_components_refused_fiveSix : isNotation "hsl(5% , 6%)" = false ∧
    ∃ r, (({} : Session).executeIntent modeFiveSix none (some "app")).outcome = .ok r ∧
      r.changes.length = 1 ∧ ∀ c ∈ r.changes, c.token = "mode" := by
  have hall := two_components_refused (written_wholeComponent "5" (by decide))
    (written_wholeComponent "6" (by decide)) hslPair_fiveSix
  refine ⟨?_, ?_⟩
  · rw [← Bool.not_eq_true, hall.1]
    decide
  · obtain ⟨r, h, hr⟩ := exists_ok_of_map (b := 1) (f := fun r => r.changes.length)
      (o := (({} : Session).executeIntent modeFiveSix none (some "app")).outcome)
      (by decide +kernel)
    exact ⟨r, h, hr, hall.2 (by decide) (by decide) _ _ _ _ r rfl h⟩

theorem hslPair_tenTwenty :
    HslPair (wholeComponent "10") (wholeComponent "20") "hsl(10%, 20%)".toList :=
  @HslPair.intro _ _ "hsl".toList [] ", ".toList [] (by decide) (by decide)
    (@Gap.comma [] [' '] (by decide) (by decide)) (by decide)

/-- **A cut component is written**: "hsl(10%, 20%)" is taken for hue 1, saturation 0 and
lightness 20. -/
theorem cut_component_written :
    HslPair (wholeComponent "10") (wholeComponent "20") "hsl(10%, 20%)".toList ∧
      isNotation "hsl(10%, 20%)" = true ∧
      (({} : Session).execute "set the primary to hsl(10%, 20%)" none none).session.store.get
        "primary" = "1 0% 20%" :=
  ⟨hslPair_tenTwenty, by decide +kernel, by decide +kernel⟩

end Restyle.Interpreter
