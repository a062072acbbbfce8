import Restyle.Proofs.Interpreter.Answered
import Restyle.Proofs.Interpreter.Interrupted

/-!
# Where faults come from

An intent runs into a fault only where a stored colour is stepped.  Presets step the brand colour
more than once, but the text that one step has written can always be stepped again, so what stops
them is the stored colour as well.

* `followDirectives_error` — the fault of a preset.
* `planIntent_error` — the fault of any intent.
-/

set_option autoImplicit false

namespace Restyle.Interpreter

open Restyle.Change Restyle.Color Restyle.Command Restyle.Numeric Restyle.Store Restyle.Target

variable {rule : ForegroundRule} {store : TokenStore} {fault : Fault}

/-! ## Presets -/

/-- After one directive the working colour is the same, or a text that fits the format. -/
theorem followDirective_ok {p q : PresetProgress} {property directive : String}
    (hp : ∀ w ∈ p.writes, w.Fits) (h : followDirective p property directive = .ok q) :
    (∀ w ∈ q.writes, w.Fits) ∧ (q.working = p.working ∨ FitsFormat q.working) := by
  cases followDirective_cases p property directive with
  | corners value about known result =>
    cases result.symm.trans h
    have hfits : FitsFormat value :=
      fitsFormat_of_step radiusScale (by decide) _ (mem_values_of_lookup known)
    exact ⟨List.forall_mem_append.2 ⟨hp, List.forall_mem_singleton.2 hfits⟩, .inl rfl⟩
  | step direction change about asks stepped result =>
    cases result.symm.trans h
    exact ⟨hp, .inr (fitsFormat_adjustColor stepped)⟩
  | fault direction fault about asks stopped result => cases result.symm.trans h
  | skip unknown result =>
    cases result.symm.trans h
    exact ⟨hp, .inl rfl⟩

theorem followDirective_cannotRound {p : PresetProgress} {property directive : String}
    (h : followDirective p property directive = .error fault) :
    ∃ e, fault = .rounding e ∧ CannotRound p.working e := by
  cases followDirective_cases p property directive with
  | fault direction fault about asks stopped result =>
    cases result.symm.trans h
    exact adjustColor_error stopped
  | corners value about known result => cases result.symm.trans h
  | step direction change about asks stepped result => cases result.symm.trans h
  | skip unknown result => cases result.symm.trans h

/-- **The fault of a preset** comes from the colour that it began with. -/
theorem followDirectives_error {p q : PresetProgress} {directives : List (String × String)}
    (hp : ∀ w ∈ p.writes, w.Fits) (h : followDirectives p directives = (q, some fault)) :
    ∃ e, fault = .rounding e ∧ CannotRound p.working e := by
  induction directives generalizing p with
  | nil => cases h
  | cons directive rest ih =>
    obtain ⟨property, word⟩ := directive
    rw [followDirectives] at h
    split at h
    · rename_i fault' hf
      cases h
      exact followDirective_cannotRound hf
    · rename_i p' hp'
      obtain ⟨hwrites, hsame | hfits⟩ := followDirective_ok hp hp'
      · rw [← hsame]
        exact ih hwrites h
      · -- what one step has written can be stepped again
        obtain ⟨q', hq', -⟩ := followDirectives_fits ⟨hwrites, hfits⟩ rest
        rw [hq'] at h
        cases h

/-! ## Intents -/

/-- A fault of rounding, at a step from a stored value. -/
def FromRounding (store : TokenStore) (fault : Fault) : Prop :=
  ∃ token e, fault = .rounding e ∧ CannotRound (store.get token) e

theorem planPreset_error {intent : Intent}
    (h : (planPreset rule store intent).reply = .error fault) : FromRounding store fault := by
  cases planPreset_cases rule store intent with
  | unknown missing plan =>
    rw [plan] at h
    cases h
  | stopped preset p fault known followed plan =>
    rw [plan] at h
    cases h
    obtain ⟨e, he, hc⟩ := followDirectives_error (List.forall_mem_nil _) followed
    exact ⟨primary.token, e, he, hc⟩
  | applied preset p known followed plan =>
    rw [plan] at h
    dsimp only at h
    split at h
    · cases h
    · cases h

theorem planStyle_error {settings : Settings} {intent : Intent} {selection : Option Selection}
    (h : (planStyle settings store intent selection).reply = .error fault) :
    FromRounding store fault := by
  obtain ⟨phrase, direction, token, hchange⟩ := (planStyle_fault h).2
  obtain ⟨e, he, hc⟩ := relativeChange_error hchange
  exact ⟨token, e, he, hc⟩

/-- **The fault of an intent** comes from rounding at a step from a stored value. -/
theorem planIntent_error {settings : Settings} {intent : Intent} {selection : Option Selection}
    (h : (planIntent settings store intent selection).reply = .error fault) :
    FromRounding store fault := by
  cases planIntent_cases settings store intent selection with
  | answer reply kind told plan =>
    rw [plan] at h
    cases h
  | mode kind plan =>
    rw [plan] at h
    cases h
  | preset kind plan =>
    rw [plan] at h
    exact planPreset_error h
  | style kind plan =>
    rw [plan] at h
    exact planStyle_error h

end Restyle.Interpreter
