import Restyle.Proofs.Command.Fields
import Restyle.Proofs.Interpreter.Selected

/-!
# Fallbacks

The interpreter has a fallback wherever a target or a value may be missing.  They are for intents
that are made elsewhere: no text comes to one of them, since what a text is understood as has the
fields that its kind needs.

* `orElse_of_some` — a field that is there is shown as it is.
* `parsed_intents_well_formed` — the fields of what a text is understood as.
-/

set_option autoImplicit false

namespace Restyle.Interpreter

open Restyle.Command Restyle.Text Restyle.Vocabulary

theorem orElse_of_some {field : Option String} {s : String} (h : field = some s) (hne : s ≠ "")
    (other : String) : some (orElse field other) = field := by
  rw [h]
  exact congrArg some (if_neg hne)

/-- **What a text is understood as is well formed**: it keeps the text as it is; a command that
is unknown, or that takes back or makes again, has nothing else; only style commands have a
direction or a scope; and a style command has a target and a value, neither of them blank and both
trimmed.  So no fallback for a missing target or value is ever taken: a target is never empty
where it is bound, and what is shown is what was said. -/
theorem parsed_intents_well_formed {text : String} {i : Intent} (h : parse text = .ok i) :
    i.raw = text ∧
      (i.kind ∈ [.unknown, .undo, .redo] →
        i.target = none ∧ i.value = none ∧ i.direction = none ∧ i.scope = none) ∧
      (i.kind ≠ .style → i.direction = none ∧ i.scope = none) ∧
      (i.kind = .style → ∃ target value, i.target = some target ∧ i.value = some value ∧
        Filled target ∧ Filled value ∧ tableKey target ≠ "") ∧
      (i.kind ∈ [.style, .visibility] → ∀ other, some (orElse i.target other) = i.target) ∧
      (i.kind ∈ [.style, .layout, .mode, .preset] →
        ∀ other, some (orElse i.value other) = i.value) := by
  have hd := parse_wellFormed h
  refine ⟨raw_of_parse h, ?_, hd.plain, ?_, ?_, ?_⟩
  · intro hkind
    have hother : i.kind ≠ .style := by
      rintro hstyle
      rw [hstyle] at hkind
      exact absurd hkind (by decide)
    obtain ⟨htarget, hvalue⟩ := hd.bare hkind
    exact ⟨htarget, hvalue, hd.plain hother⟩
  · intro hstyle
    obtain ⟨target, htarget, hfilled⟩ := hd.target (hstyle ▸ List.mem_cons_self)
    obtain ⟨value, hvalue, htold⟩ := hd.value hstyle
    exact ⟨target, value, htarget, hvalue, hfilled, htold, tableKey_ne_empty hfilled.words_ne_nil⟩
  · intro hkind
    obtain ⟨target, htarget, hfilled⟩ := hd.target hkind
    exact orElse_of_some htarget hfilled.ne_empty
  · intro hkind
    rcases List.mem_cons.1 hkind with hstyle | hkind
    · obtain ⟨value, hvalue, htold⟩ := hd.value hstyle
      exact orElse_of_some hvalue htold.ne_empty
    · obtain ⟨value, hvalue, hne⟩ := hd.told hkind
      exact orElse_of_some hvalue hne

/-- An equals sign between an article and a direction, with white space that is not ASCII. -/
theorem parsed_equation_well_formed :
    parse " THE\u2003= more\u00a0 " = .ok {
        kind := .style
        confidence := 80 / 100
        target := some "the"
        value := some "more"
        raw := " THE\u2003= more\u00a0 " } ∧
      Filled "the" ∧ Filled "more" := by
  have hparse : parse " THE\u2003= more\u00a0 " = .ok {
      kind := .style
      confidence := 80 / 100
      target := some "the"
      value := some "more"
      raw := " THE\u2003= more\u00a0 " } := by
    decide +kernel
  obtain ⟨-, -, -, hstyle, -⟩ := parsed_intents_well_formed hparse
  obtain ⟨target, value, htarget, hvalue, hfilled, htold, -⟩ := hstyle rfl
  cases htarget
  cases hvalue
  exact ⟨hparse, hfilled, htold⟩

end Restyle.Interpreter
