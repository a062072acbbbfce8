import Restyle.Proofs.Command.Named
import Restyle.Proofs.Interpreter.Carried
import Restyle.Proofs.Target.Guess

/-!
# Names of the mode

A style command whose target is a name of the mode switches the mode, or fails: it leaves the
tokens alone.  "theme" is the exception: it is compared with the names of targets before it is
taken for the mode, and comes out as the primary colour.

* `resolveTerm?_modeNames` — what the other names are bound to.
* `mode_name_leaves_tokens` — style commands that name the mode.
* `theme_recolors` — the exception.
-/

set_option autoImplicit false

namespace Restyle.Interpreter

open Restyle.Command Restyle.Matching Restyle.Store Restyle.Target Restyle.Text Restyle.Vocabulary

/-! ## What the names are bound to -/

/-- The names of the mode that are not taken for something else. -/
def modeNames : List String := ["mode", "dark mode", "light mode", "color mode"]

/-- The limits of targets by default. -/
def defaultLimits : Limits := targetLimits Tolerance.default.thresholds

theorem mem_modeNames {target : String} (h : isModeTarget target = true)
    (htheme : tableKey target ≠ "theme") : tableKey target ∈ modeNames := by
  simp only [isModeTarget, List.contains_eq_mem, List.mem_cons, List.not_mem_nil, or_false,
    decide_eq_true_eq] at h
  rcases h with h | h | h | h | h
  · simp [h, modeNames]
  · exact absurd h htheme
  · simp [h, modeNames]
  · simp [h, modeNames]
  · simp [h, modeNames]

/-- What the tables say of the names of several words: each is looked up as it is, and no word for
a target is one of them or near one. -/
theorem modeNames_rows : ∀ name ∈ modeNames.tail, trim (lower name) = name ∧
    comparisonForm name = name ∧ (lookupForms name).findSome? (findExact? name) = none ∧
    ∀ word ∈ targetWords.keys, mayMatch 2 name (byteChars word) = false := by
  decide +kernel

theorem findNear?_modeNames {name : String} (h : name ∈ modeNames.tail) :
    findNear? scoreRounding defaultLimits name name = none := by
  obtain ⟨htrim, -, -, hapart⟩ := modeNames_rows name h
  have hnone : shortlist 2 (trim (lower name)) targetWords.keys = [] := by
    rw [htrim, shortlist_targetWords, List.filter_eq_nil_iff]
    intro word hword
    simp [hapart word hword]
  rw [findNear?, bestMatch?_shortlist 2 (by decide), hnone]
  rfl

/-- **A name of the mode is bound to the mode, or to nothing.** -/
theorem resolveTerm?_modeNames : ∀ name ∈ modeNames,
    ∀ f ∈ resolveTerm? scoreRounding defaultLimits name, f.definition.category = .mode := by
  have hmode : ∀ f ∈ resolveTerm? scoreRounding defaultLimits "mode",
      f.definition.category = .mode := by decide +kernel
  intro name hname
  rcases List.mem_cons.1 hname with rfl | htail
  · exact hmode
  · obtain ⟨-, hform, hexact, -⟩ := modeNames_rows name htail
    intro f hf
    have hnone : resolveTerm? scoreRounding defaultLimits name = none := by
      unfold resolveTerm?
      simp only [hform, hexact, findNear?_modeNames htail, ite_self]
    simp [hnone] at hf

/-! ## Commands that name the mode -/

variable {settings : Settings} {store : TokenStore} {intent : Intent}
  {selection : Option Selection} {target text : String}

theorem planText_style (hhelp : asksForHelp text = false) (hparse : parse text = .ok intent)
    (hstyle : intent.kind = .style) :
    planText settings store text selection = planStyle settings store intent selection := by
  rw [planText, hhelp, hparse]
  simp [planIntent, hstyle]

theorem planStyle_absolute {binding : Binding}
    (hresolve : resolve scoreRounding (targetLimits settings.thresholds) intent selection =
      .ok binding) (hmode : binding.definition.category ≠ .mode)
    (hdirection : intent.direction = none) :
    planStyle settings store intent selection = planAbsolute settings intent binding := by
  rw [planStyle, hresolve]
  simp [hmode, hdirection]

/-- A name of the mode does not stand for what is selected. -/
theorem ne_contextualTarget (h : isModeTarget target = true) : target ≠ contextualTarget := by
  have hthis : isModeTarget contextualTarget = false := by decide
  rintro rfl
  simp [hthis] at h

/-- Such a command switches the mode, or fails. -/
theorem planStyle_modeNames (htolerance : settings.tolerance = .default)
    (htarget : intent.target = some target) (hscope : intent.scope = none)
    (hmode : isModeTarget target = true) (htheme : tableKey target ≠ "theme") :
    planStyle settings store intent selection = planMode store.mode intent.value ∨
      ∃ reply, planStyle settings store intent selection = .answer reply ∧
        reply.success = false := by
  have hname := mem_modeNames hmode htheme
  have hcontextual : intent.isContextual = false := by
    simp [Intent.isContextual, htarget, hscope, ne_contextualTarget hmode]
  have hpresent : tableKey target ≠ "" := by
    intro hempty
    rw [hempty] at hname
    exact absurd hname (by decide)
  have hlimits : targetLimits settings.thresholds = defaultLimits := by
    rw [Settings.thresholds, htolerance]
    rfl
  unfold planStyle resolve
  simp only [hcontextual, hlimits, htarget, Option.getD_some, hpresent, Bool.false_eq_true,
    if_false]
  cases hf : resolveTerm? scoreRounding defaultLimits (tableKey target) with
  | none => exact .inr ⟨_, rfl, rfl⟩
  | some f =>
    have hcategory := resolveTerm?_modeNames _ hname f hf
    left
    simp [hcategory]

/-- What switching the mode comes to. -/
theorem carryOut_planMode (s : Session) (value : Option String) (key : Option String) :
    (s.carryOut (planMode s.store.mode value) key).session.store.tokens = s.store.tokens ∧
      ∃ r mode, (s.carryOut (planMode s.store.mode value) key).outcome = .ok r ∧
        r.success = true ∧ r.changes = [⟨"mode", s.store.mode.name, Mode.name mode⟩] := by
  unfold planMode
  generalize modeFor s.store.mode value = mode
  exact ⟨rfl, _, mode, rfl, rfl, rfl⟩

/-- A style command that names something does not ask for help. -/
theorem asksForHelp_of_names (h : (Phrase.ofText text).Names) :
    asksForHelp text = false := by
  have hhelp : ∀ word ∈ ["help", "?"], (words word).length = 1 ∧ '=' ∉ word.toList := by decide
  rw [asksForHelp, Bool.eq_false_iff, Ne, List.contains_iff_mem]
  intro hm
  obtain ⟨hone, hequals⟩ := hhelp _ hm
  rcases h.searched with h | h
  · omega
  · exact hequals h

/-- **A style command whose target is a name of the mode leaves the tokens alone** by default,
unless the name is "theme": it does not run into a fault, and it switches the mode if it succeeds
and changes nothing if it does not. -/
theorem mode_name_leaves_tokens {s : Session} (htolerance : s.settings.tolerance = .default)
    (hparse : parse text = .ok intent) (hstyle : intent.kind = .style)
    (htarget : intent.target = some target) (hmode : isModeTarget target = true)
    (htheme : tableKey target ≠ "theme") (selection : Option Selection) (key : Option String) :
    (s.execute text selection key).session.store.tokens = s.store.tokens ∧
      ∃ r, (s.execute text selection key).outcome = .ok r ∧
        (r.success = true → ∃ mode : Mode, r.changes = [⟨"mode", s.store.mode.name, mode.name⟩]) ∧
        (r.success = false → r.changes = []) := by
  have hnamed : intent.scope = none ∧ (Phrase.ofText text).Names := by
    rcases parse_named hparse hstyle with hthis | hnamed
    · exact absurd (Option.some.inj (htarget.symm.trans hthis)) (ne_contextualTarget hmode)
    · exact hnamed
  rw [Session.execute, planText_style (asksForHelp_of_names hnamed.2) hparse hstyle]
  rcases planStyle_modeNames htolerance htarget hnamed.1 hmode htheme with
    hp | ⟨reply, hp, hfailed⟩
  · obtain ⟨htokens, r, mode, hr, hs, hchanges⟩ := carryOut_planMode s intent.value key
    rw [hp]
    exact ⟨htokens, r, hr, fun _ => ⟨mode, hchanges⟩, fun hn => by simp [hs] at hn⟩
  · rw [hp]
    refine ⟨rfl, _, rfl, fun hs => ?_, fun _ => rfl⟩
    simp [hfailed] at hs

/-- "set the mode to dark" on a fresh session. -/
theorem mode_name_leaves_tokens_dark :
    (({} : Session).execute "set the mode to dark" none none).session.store.tokens =
        ({} : Session).store.tokens ∧
      ∃ r, (({} : Session).execute "set the mode to dark" none none).outcome = .ok r ∧
        (r.success = true → ∃ mode : Mode,
          r.changes = [⟨"mode", ({} : Session).store.mode.name, mode.name⟩]) ∧
        (r.success = false → r.changes = []) := by
  have hparse : parse "set the mode to dark" = .ok {
      kind := .style, confidence := 9 / 10, target := some "mode", value := some "dark",
      raw := "set the mode to dark" } := by decide +kernel
  exact mode_name_leaves_tokens rfl hparse rfl rfl (by decide +kernel) (by decide +kernel) none none

/-! ## The exception -/

/-- The binding of "theme" by default. -/
def themeBinding : Binding :=
  { definition := primary, note := some "Interpreted \"theme\" as \"primary\"" }

/-- "theme" is the beginning of one name alone, that of the theme colour. -/
theorem resolveTerm?_theme : resolveTerm? scoreRounding defaultLimits "theme" =
    some ⟨themeBinding.definition, themeBinding.note⟩ := by
  have hnear : shortlist 2 (trim (lower "theme")) targetWords.keys = ["theme color"] := by
    rw [shortlist_targetWords]
    decide +kernel
  have hform : comparisonForm "theme" = "theme" := by decide +kernel
  have hexact : (lookupForms "theme").findSome? (findExact? "theme") = none := by decide +kernel
  have hfound : findNear? scoreRounding defaultLimits "theme" "theme" =
      some ⟨themeBinding.definition, themeBinding.note⟩ := by
    rw [findNear?, bestMatch?_shortlist 2 (by decide), hnear]
    decide +kernel
  unfold resolveTerm?
  simp only [hform, hexact, hfound]
  decide

/-- The intent of "set the theme to dark". -/
def themeIntent : Intent :=
  { kind := .style, confidence := 9 / 10, target := some "theme", value := some "dark",
    raw := "set the theme to dark" }

/-- **"theme" is no name of the mode to style commands**: "set the theme to dark" changes the
primary colour, and leaves the mode as it is. -/
theorem theme_recolors : ∃ r, parse "set the theme to dark" = .ok themeIntent ∧
    themeIntent.kind = .style ∧ themeIntent.target = some "theme" ∧
    isModeTarget "theme" = true ∧
    (({} : Session).execute "set the theme to dark" none none).outcome = .ok r ∧
    r.success = true ∧ r.changes = [⟨"primary", "240 5.9% 10%", "0 0% 0%"⟩,
      ⟨"primary-foreground", "0 0% 98%", "0 0% 98%"⟩] ∧
    (({} : Session).execute "set the theme to dark" none none).session.store.get "primary" =
      "0 0% 0%" := by
  have hparse : parse "set the theme to dark" = .ok themeIntent := by decide +kernel
  have hresolve : resolve scoreRounding defaultLimits themeIntent none = .ok themeBinding := by
    have hcontextual : themeIntent.isContextual = false := by decide
    have hkey : tableKey (themeIntent.target.getD "") = "theme" := by decide +kernel
    unfold resolve
    simp only [hcontextual, hkey, resolveTerm?_theme]
    decide +kernel
  have hhelp : asksForHelp "set the theme to dark" = false := by decide +kernel
  have hcategory : themeBinding.definition.category ≠ .mode := by decide
  obtain ⟨r, hr, hfields⟩ := exists_ok_of_map
    (b := (true, [⟨"primary", "240 5.9% 10%", "0 0% 0%"⟩,
      ⟨"primary-foreground", "0 0% 98%", "0 0% 98%"⟩]))
    (f := fun r => (r.success, r.changes))
    (o := (({} : Session).carryOut (planAbsolute {} themeIntent themeBinding) none).outcome)
    (by decide +kernel)
  obtain ⟨hs, hchanges⟩ := Prod.mk.inj hfields
  rw [Session.execute, planText_style hhelp hparse rfl,
    planStyle_absolute (show resolve scoreRounding (targetLimits ({} : Session).settings.thresholds)
      themeIntent none = .ok themeBinding from hresolve) hcategory rfl]
  exact ⟨r, hparse, rfl, rfl, by decide +kernel, hr, hs, hchanges, by decide +kernel⟩

end Restyle.Interpreter
