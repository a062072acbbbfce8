import Restyle.Change.Relative
import Restyle.Proofs.Color.Format

/-!
# What a relative change comes to

A step of a scale ends at one of its values, and a step of a colour at a stored colour, since
no step leads below zero.

* `newValue_stepScale` — a step of a scale.
* `adjustColor_cases`, `adjustColor_isStored` — a step of a colour.
* `relativeChange_cases`, `relativeChange_ok` — everything that a relative change can be.
* `relativeChange_fits` — values that fit the format are changed without a fault.
* `relativeChange_error` — nothing but rounding can stop a change.
-/

set_option autoImplicit false

namespace Restyle.Change

open Restyle.Color Restyle.Command Restyle.Numeric Restyle.Vocabulary

/-! ## Scales -/

theorem mem_values_of_lookup {values : Table} {word value : String}
    (h : values.lookup word = some value) : value ∈ values.map (·.2) := by
  obtain ⟨before, after, he, -⟩ := List.lookup_eq_some_iff.1 h
  rw [he]
  simp

theorem scale?_mem {token : String} {s : Scale} (h : scale? token = some s) :
    s ∈ scales ∧ s.token = token := by
  refine ⟨List.mem_of_find?_eq_some h, ?_⟩
  have := List.find?_some h
  exact beq_iff_eq.1 this

theorem value?_isSome : ∀ s ∈ scales, ∀ step ∈ s.defaultStep :: s.steps,
    (s.value? step).isSome = true := by decide +kernel

theorem Scale.move_mem (s : Scale) (step : String) (count : Int) :
    s.move step count ∈ s.defaultStep :: s.steps := by
  unfold Scale.move
  dsimp only
  generalize (max 0 _ : Int).toNat = i
  cases h : s.steps[i]? with
  | none => exact List.mem_cons_self
  | some step => exact List.mem_cons_of_mem _ (List.mem_of_getElem? h)

/-- A step of a scale ends at one of its values. -/
theorem newValue_stepScale {s : Scale} (hs : s ∈ scales) (current : String)
    (direction : Direction) : (stepScale s current direction).newValue ∈ s.values.map (·.2) := by
  have hstep := value?_isSome s hs _ (s.move_mem (s.stepFor current) direction.sign)
  obtain ⟨value, hv⟩ := Option.isSome_iff_exists.1 hstep
  simp only [stepScale, Scale.stepped, hv, Option.getD_some]
  exact mem_values_of_lookup hv

/-! ## Colours -/

theorem notNegative_percent (x : Binary64) : (percent x).NotNegative :=
  Binary64.notNegative_clamp (le_refl 0) (.finite 100) x

/-- No step leads below zero. -/
theorem notNegative_adjust {c : Hsl} (hc : c.NotNegative) (direction : Direction)
    (property : ColorProperty) : (adjust c direction property).NotNegative := by
  cases property with
  | lightness => exact ⟨hc.hue, hc.saturation, notNegative_percent _⟩
  | saturation => exact ⟨hc.hue, notNegative_percent _, hc.lightness⟩
  | hue => exact ⟨Binary64.notNegative_onCircle (by norm_num) _, hc.saturation, hc.lightness⟩
  | contrast => exact ⟨hc.hue, notNegative_percent _, notNegative_percent _⟩

/-- What a step of a colour text comes to. -/
inductive AdjustCase (current : String) (direction : Direction) (property : String) : Prop
  | unread (unread : Hsl.read? current = none)
    (outcome : adjustColor current direction property = .ok (.error .notAColor))
  | unknown (c : Hsl) (read : Hsl.read? current = some c)
    (unknown : ColorProperty.ofName? property = none)
    (outcome : adjustColor current direction property = .ok (.error (.unknownProperty property)))
  | stopped (c : Hsl) (p : ColorProperty) (e : RoundingError) (read : Hsl.read? current = some c)
    (text : (adjust c direction p).text = .error e)
    (outcome : adjustColor current direction property = .error (.rounding e))
  | changed (c : Hsl) (p : ColorProperty) (value : String) (read : Hsl.read? current = some c)
    (text : (adjust c direction p).text = .ok value)
    (outcome : adjustColor current direction property = .ok (.ok { newValue := value, property }))

theorem adjustColor_cases (current : String) (direction : Direction) (property : String) :
    AdjustCase current direction property := by
  cases read : Hsl.read? current with
  | none => exact .unread read (by simp only [adjustColor, adjustColorBy, read])
  | some c =>
    cases known : ColorProperty.ofName? property with
    | none => exact .unknown c read known (by simp only [adjustColor, adjustColorBy, read, known])
    | some p =>
      cases text : (adjust c direction p).text with
      | error e =>
        exact .stopped c p e read text
          (by simp only [adjustColor, adjustColorBy, read, known, text])
      | ok value =>
        exact .changed c p value read text
          (by simp only [adjustColor, adjustColorBy, read, known, text])

/-- A step of a colour begins at a text that is read as one, and ends at the text of another. -/
theorem adjustColor_ok {current property : String} {direction : Direction}
    {change : RelativeChange} (h : adjustColor current direction property = .ok (.ok change)) :
    change.scaleStep = none ∧ ∃ c p, Hsl.read? current = some c ∧
      (adjust c direction p).text = .ok change.newValue := by
  cases adjustColor_cases current direction property with
  | unread unread outcome =>
    rw [outcome] at h
    cases h
  | unknown c read unknown outcome =>
    rw [outcome] at h
    cases h
  | stopped c p e read text outcome =>
    rw [outcome] at h
    cases h
  | changed c p value read text outcome =>
    rw [outcome] at h
    cases h
    exact ⟨rfl, c, p, read, text⟩

/-- The new value of a step of a colour is a stored colour. -/
theorem adjustColor_isStored {current property : String} {direction : Direction}
    {change : RelativeChange} (h : adjustColor current direction property = .ok (.ok change)) :
    (Hsl.read? current).isSome = true ∧ IsStored change.newValue ∧ change.scaleStep = none := by
  obtain ⟨hstep, c, p, hc, hv⟩ := adjustColor_ok h
  refine ⟨by rw [hc]; rfl, ?_, hstep⟩
  exact isStored_of_text (notNegative_adjust (Hsl.notNegative_of_read hc) direction p) hv

/-! ## Both -/

/-- What a relative change comes to. -/
inductive ChangeCase (read : String → String) (phrase : String) (direction : Direction)
    (bound : String) : Prop
  | unnamed (unknown : propertyOf? phrase = none)
    (outcome : relativeChange read phrase direction bound = .ok (.error (.noProperty phrase)))
  /-- The property lives in a scale of its own, whatever the command is bound to. -/
  | scale (property : String) (inverse : Bool) (s : Scale)
    (named : propertyOf? phrase = some (property, inverse)) (kept : scale? property = some s)
    (outcome : relativeChange read phrase direction bound =
      .ok (.ok (stepScale s (read s.token) (if inverse then direction.inverted else direction))))
  | noColor (property : String) (inverse : Bool)
    (named : propertyOf? phrase = some (property, inverse)) (color : scale? property = none)
    (absent : bound = "" ∨ read bound = "")
    (outcome : relativeChange read phrase direction bound = .ok (.error .noColor))
  | color (property : String) (inverse : Bool)
    (named : propertyOf? phrase = some (property, inverse)) (color : scale? property = none)
    (present : bound ≠ "" ∧ read bound ≠ "")
    (outcome : relativeChange read phrase direction bound =
      adjustColor (read bound) (if inverse then direction.inverted else direction) property)

theorem relativeChange_cases (read : String → String) (phrase : String) (direction : Direction)
    (bound : String) : ChangeCase read phrase direction bound := by
  cases named : propertyOf? phrase with
  | none => exact .unnamed named (by simp only [relativeChange, named])
  | some pair =>
    obtain ⟨property, inverse⟩ := pair
    cases kept : scale? property with
    | some s =>
      exact .scale property inverse s named kept (by simp only [relativeChange, named, kept])
    | none =>
      by_cases unbound : bound = ""
      · exact .noColor property inverse named kept (.inl unbound)
          (by simp only [relativeChange, named, kept, if_pos unbound])
      · by_cases blank : read bound = ""
        · exact .noColor property inverse named kept (.inr blank)
            (by simp only [relativeChange, named, kept, if_neg unbound, if_pos blank])
        · exact .color property inverse named kept ⟨unbound, blank⟩
            (by simp only [relativeChange, named, kept, if_neg unbound, if_neg blank])

/-- A change that is worked out is a step of a scale, or a step of the bound colour. -/
theorem relativeChange_ok {read : String → String} {phrase bound : String}
    {direction : Direction} {change : RelativeChange}
    (h : relativeChange read phrase direction bound = .ok (.ok change)) :
    (∃ s ∈ scales, (∃ step, change.scaleStep = some (s.token, step)) ∧
      change.newValue ∈ s.values.map (·.2)) ∨
    (change.scaleStep = none ∧ IsStored change.newValue ∧
      (Hsl.read? (read bound)).isSome = true) := by
  cases relativeChange_cases read phrase direction bound with
  | unnamed unknown outcome =>
    rw [outcome] at h
    cases h
  | scale property inverse s named kept outcome =>
    rw [outcome] at h
    cases h
    have hm := (scale?_mem kept).1
    exact .inl ⟨s, hm, ⟨_, rfl⟩, newValue_stepScale hm _ _⟩
  | noColor property inverse named color absent outcome =>
    rw [outcome] at h
    cases h
  | color property inverse named color present outcome =>
    rw [outcome] at h
    obtain ⟨hr, hv, hn⟩ := adjustColor_isStored h
    exact .inr ⟨hn, hv, hr⟩

/-! ## Within the range of the format -/

theorem inRange_percent (x : Binary64) : (percent x).InRange :=
  Binary64.inRange_clamp (by norm_num) (by norm_num) x

/-- A step stays within the range. -/
theorem inRange_adjust {c : Hsl} (hc : c.InRange) (direction : Direction)
    (property : ColorProperty) : (adjust c direction property).InRange := by
  cases property with
  | lightness => exact ⟨hc.hue, hc.saturation, inRange_percent _⟩
  | saturation => exact ⟨hc.hue, inRange_percent _, hc.lightness⟩
  | contrast => exact ⟨hc.hue, inRange_percent _, inRange_percent _⟩
  | hue =>
    have hturn : -360 ≤ (direction.sign : ℚ) * 30 ∧ (direction.sign : ℚ) * 30 ≤ 360 := by
      cases direction <;> norm_num [Direction.sign]
    exact ⟨Binary64.inRange_onCircle (by norm_num) (le_refl _)
      (Binary64.isFinite_add hc.hue hturn.1 hturn.2), hc.saturation, hc.lightness⟩

/-- An outcome without a fault, whose new value fits the format if there is one. -/
def Outcome.Fits (o : Outcome) : Prop :=
  ∃ r, o = .ok r ∧ ∀ change, r = .ok change → FitsFormat change.newValue

theorem Outcome.fits_failure (e : RelativeFailure) : Outcome.Fits (.ok (.error e)) :=
  ⟨_, rfl, nofun⟩

/-- A step of a colour text that fits the format. -/
theorem adjustColor_fits {current : String} (h : FitsFormat current) (direction : Direction)
    (property : String) : (adjustColor current direction property).Fits := by
  cases adjustColor_cases current direction property with
  | unread unread outcome =>
    rw [outcome]
    exact Outcome.fits_failure _
  | unknown c read unknown outcome =>
    rw [outcome]
    exact Outcome.fits_failure _
  | stopped c p e read text outcome =>
    obtain ⟨v, hv, -⟩ := text_of_inRange (inRange_adjust (inRange_of_read h read) direction p)
    rw [text] at hv
    cases hv
  | changed c p value read text outcome =>
    obtain ⟨v, hv, hfits⟩ := text_of_inRange (inRange_adjust (inRange_of_read h read) direction p)
    rw [text] at hv
    cases hv
    rw [outcome]
    refine ⟨_, rfl, ?_⟩
    rintro change ⟨⟩
    exact hfits

theorem fitsFormat_of_step : ∀ s ∈ scales, ∀ v ∈ s.values.map (·.2), FitsFormat v := by
  have hshort : ∀ s ∈ scales, ∀ v ∈ s.values.map (·.2), v.length ≤ 308 := by decide +kernel
  exact fun s hs v hv => fitsFormat_of_length (hshort s hs v hv)

/-- A step keeps components within the range if they are finite. -/
theorem bounded_adjust {c : Hsl} (hc : c.Bounded) (direction : Direction)
    (property : ColorProperty) : (adjust c direction property).Bounded := by
  have hpercent : ∀ x, (percent x).Bounded := fun x _ => inRange_percent x
  cases property with
  | lightness => exact ⟨hc.hue, hc.saturation, hpercent _⟩
  | saturation => exact ⟨hc.hue, hpercent _, hc.lightness⟩
  | hue =>
    exact ⟨Binary64.bounded_onCircle (by norm_num) (le_refl _) _, hc.saturation, hc.lightness⟩
  | contrast => exact ⟨hc.hue, hpercent _, hpercent _⟩

/-- A text is a colour that a step takes to one with a component that is not finite, and that
component cannot be rounded. -/
def CannotRound (text : String) (e : RoundingError) : Prop :=
  ∃ c direction property, Hsl.read? text = some c ∧
    (adjust c direction property).text = .error e ∧
    ∃ x ∈ (adjust c direction property).components, ¬x.IsFinite ∧ x.roundHalfUp = .error e

/-- **Only rounding stops a step of a colour.** -/
theorem adjustColor_error {current property : String} {direction : Direction} {fault : Fault}
    (h : adjustColor current direction property = .error fault) :
    ∃ e, fault = .rounding e ∧ CannotRound current e := by
  cases adjustColor_cases current direction property with
  | unread unread outcome =>
    rw [outcome] at h
    cases h
  | unknown c read unknown outcome =>
    rw [outcome] at h
    cases h
  | stopped c p e read text outcome =>
    rw [outcome] at h
    cases h
    have hbounded := bounded_adjust (Hsl.bounded_of_read read) direction p
    exact ⟨e, rfl, c, direction, p, read, text, hbounded.text_error text⟩
  | changed c p value read text outcome =>
    rw [outcome] at h
    cases h

/-- The new value of a step of a colour fits the format, whatever it is a step from. -/
theorem fitsFormat_adjustColor {current property : String} {direction : Direction}
    {change : RelativeChange} (h : adjustColor current direction property = .ok (.ok change)) :
    FitsFormat change.newValue := by
  obtain ⟨-, c, p, hc, hv⟩ := adjustColor_ok h
  exact fitsFormat_of_text (notNegative_adjust (Hsl.notNegative_of_read hc) direction p) hv

/-- Only rounding stops a relative change. -/
theorem relativeChange_error {read : String → String} {phrase bound : String}
    {direction : Direction} {fault : Fault}
    (h : relativeChange read phrase direction bound = .error fault) :
    ∃ e, fault = .rounding e ∧ CannotRound (read bound) e := by
  cases relativeChange_cases read phrase direction bound with
  | unnamed unknown outcome =>
    rw [outcome] at h
    cases h
  | scale property inverse s named kept outcome =>
    rw [outcome] at h
    cases h
  | noColor property inverse named color absent outcome =>
    rw [outcome] at h
    cases h
  | color property inverse named color present outcome =>
    rw [outcome] at h
    exact adjustColor_error h

end Restyle.Change
