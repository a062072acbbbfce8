import Restyle.Proofs.Change.Outcome
import Restyle.Proofs.Interpreter.Cases
import Restyle.Proofs.Target.Styled

/-!
# Values that suit a token

A corner length suits the corners, a value of its own scale any other token of a scale, and a
stored colour all other tokens.  Words are only ever looked up to values that suit the token
they are meant for, and the store keeps such values as they are.

* `suits_absoluteValue` — what a word is looked up to.
* `stored_of_suits` — suitable values are kept as they are.
* `read?_of_suits` — no value of a scale is read as a colour.
-/

set_option autoImplicit false

namespace Restyle.Interpreter

open Restyle.Change Restyle.Color Restyle.Command Restyle.Matching Restyle.Store Restyle.Target
  Restyle.Vocabulary

/-- The values that suit a token. -/
def Suits (token value : String) : Prop :=
  if token = radiusScale.token then value ∈ radiusValues.map (·.2)
  else match scale? token with
    | some s => value ∈ s.values.map (·.2)
    | none => IsStored value

theorem suits_radius {value : String} :
    Suits radiusScale.token value ↔ value ∈ radiusValues.map (·.2) := by
  rw [Suits, if_pos rfl]

theorem suits_of_scale {token value : String} {s : Scale} (hr : token ≠ radiusScale.token)
    (hs : scale? token = some s) : Suits token value ↔ value ∈ s.values.map (·.2) := by
  rw [Suits, if_neg hr, hs]

theorem suits_of_color {token value : String} (h : scale? token = none) :
    Suits token value ↔ IsStored value := by
  have hr : token ≠ radiusScale.token := by
    rintro rfl
    cases h
  rw [Suits, if_neg hr, h]

/-! ## Steps -/

theorem scale?_token : ∀ s ∈ scales, scale? s.token = some s := by decide

theorem radius_values : ∀ v ∈ radiusScale.values.map (·.2), v ∈ radiusValues.map (·.2) := by
  decide

/-- The values of a scale suit its token. -/
theorem suits_of_step {s : Scale} (hs : s ∈ scales) {value : String}
    (hv : value ∈ s.values.map (·.2)) : Suits s.token value := by
  have hst := scale?_token s hs
  by_cases hr : s.token = radiusScale.token
  · have hs' : s = radiusScale := by
      rw [hr] at hst
      cases hst
      rfl
    subst hs'
    exact suits_radius.2 (radius_values _ hv)
  · exact (suits_of_scale hr hst).2 hv

/-! ## Look-ups -/

theorem findKnown?_mem {values synonyms : Table} {word : String} {f : Found}
    (h : findKnown? values synonyms word = some f) : f.value ∈ values.map (·.2) := by
  unfold findKnown? at h
  split at h
  · rename_i value hv
    cases h
    exact mem_values_of_lookup hv
  · simp only [Option.bind_eq_bind, Option.bind_eq_some_iff, Option.some.injEq] at h
    obtain ⟨canonical, -, value, hv, rfl⟩ := h
    exact mem_values_of_lookup hv

theorem findNearest?_mem {values : Table} {limits : Limits} {term word : String} {f : Found}
    (h : findNearest? values limits term word = some f) : f.value ∈ values.map (·.2) := by
  unfold findNearest? at h
  simp only [Option.bind_eq_bind, Option.bind_eq_some_iff, Option.some.injEq] at h
  obtain ⟨m, -, value, hv, rfl⟩ := h
  exact mem_values_of_lookup hv

/-- What is found in a table, be it by comparison, is one of its values. -/
theorem known_or_nearest_mem {values synonyms : Table} {limits : Limits} {term word : String}
    {f : Found}
    (h : (findKnown? values synonyms word).or (findNearest? values limits term word) = some f) :
    f.value ∈ values.map (·.2) := by
  rcases Option.or_eq_some_iff.1 h with h | ⟨-, h⟩
  · exact findKnown?_mem h
  · exact findNearest?_mem h

theorem lookupColor_mem {t : Thresholds} {name : String} {f : Found}
    (h : lookupColor t name = some f) : f.value ∈ colorValues.map (·.2) := by
  unfold lookupColor at h
  exact known_or_nearest_mem h

theorem isStored_of_colorValue : ∀ v ∈ colorValues.map (·.2), IsStored v := by decide +kernel

theorem lookupColor_isStored {t : Thresholds} {name : String} {f : Found}
    (h : lookupColor t name = some f) : IsStored f.value :=
  isStored_of_colorValue _ (lookupColor_mem h)

theorem lookupRadius_mem {t : Thresholds} {term : String} {f : Found}
    (h : lookupRadius t term = some f) : f.value ∈ radiusValues.map (·.2) := by
  unfold lookupRadius at h
  exact known_or_nearest_mem h

theorem valueOfTerm?_mem {s : Scale} {term step value : String}
    (h : s.valueOfTerm? term = some (step, value)) : value ∈ s.values.map (·.2) := by
  unfold Scale.valueOfTerm? at h
  simp only [Option.bind_eq_bind, Option.bind_eq_some_iff, Option.some.injEq, Prod.mk.injEq] at h
  obtain ⟨n, -, v, hv, -, rfl⟩ := h
  exact mem_values_of_lookup hv

theorem lookupScale_mem {t : Thresholds} {s : Scale} {term : String} {f : Found}
    (h : lookupScale t s term = some f) : f.value ∈ s.values.map (·.2) := by
  unfold lookupScale at h
  split at h
  · rename_i step value hv
    cases h
    exact valueOfTerm?_mem hv
  · simp only [Option.bind_eq_bind, Option.bind_eq_some_iff, Option.some.injEq] at h
    obtain ⟨m, -, ⟨step, value⟩, hv, rfl⟩ := h
    exact valueOfTerm?_mem hv

/-- **What a word is looked up to suits the token.** -/
theorem suits_absoluteValue {t : Thresholds} {token value : String} {f : Found}
    (h : absoluteValue t token value = some f) : Suits token f.value := by
  cases absoluteValue_cases h with
  | corners about known =>
    rw [about]
    exact suits_radius.2 (lookupRadius_mem known)
  | scale s about kept known => exact (suits_of_scale about kept).2 (lookupScale_mem known)
  | written about color spelled stored unnoted =>
    rw [suits_of_color color, stored]
    exact isStored_normalize (Bool.and_eq_true_iff.1 spelled).2
  | named about color unspelled known =>
    rw [suits_of_color color]
    exact lookupColor_isStored known

/-! ## In the store -/

theorem stored_of_plain {token : String} (h : plainTokens.contains token = true) (value : String) :
    TokenStore.stored token value = value := by
  rw [TokenStore.stored, if_pos h]

theorem stored_of_color {token : String} (h : plainTokens.contains token = false)
    (value : String) : TokenStore.stored token value = normalize value := by
  rw [TokenStore.stored, h]
  exact if_neg Bool.false_ne_true

theorem stored_of_isStored {value : String} (h : IsStored value) (token : String) :
    TokenStore.stored token value = value := by
  unfold TokenStore.stored
  split
  · rfl
  · exact h.normalize_eq

/-- Suitable values are kept as they are. -/
theorem stored_of_suits {d : Definition} (hd : d ∈ styled) {value : String}
    (h : Suits d.token value) : TokenStore.stored d.token value = value := by
  cases hs : scale? d.token with
  | none => exact stored_of_isStored ((suits_of_color hs).1 h) d.token
  | some s =>
    apply stored_of_plain
    rw [plain_iff_scale d hd, hs]
    rfl

theorem read?_of_radiusValue : ∀ v ∈ radiusValues.map (·.2), Hsl.read? v = none := by
  decide +kernel

theorem read?_of_step : ∀ s ∈ scales, ∀ v ∈ s.values.map (·.2), Hsl.read? v = none := by
  decide

/-- No value of a scale is read as a colour. -/
theorem read?_of_suits {token value : String} {s : Scale} (hs : scale? token = some s)
    (h : Suits token value) : Hsl.read? value = none := by
  by_cases hr : token = radiusScale.token
  · rw [hr] at h
    exact read?_of_radiusValue _ (suits_radius.1 h)
  · exact read?_of_step s (scale?_mem hs).1 _ ((suits_of_scale hr hs).1 h)

end Restyle.Interpreter
