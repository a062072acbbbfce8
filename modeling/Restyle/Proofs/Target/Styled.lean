import Restyle.Change.Scale
import Restyle.Store.Tokens
import Restyle.Target.Resolve

/-!
# What style commands are bound to

A command is bound to one of the definitions.  All but that of the mode are bound to a token of
a fresh store and to an entry of a section, and two of them share the entry exactly when they
share the token.

* `resolve_mem` — every binding is to one of the definitions.
* `path_eq_iff` — entries and tokens correspond.
* `foreground_of_mem` — foregrounds are colours that no definition is bound to.
-/

set_option autoImplicit false

namespace Restyle.Target

open Restyle.Change Restyle.Command Restyle.Store

/-- The definitions of what style commands write: all but that of the mode. -/
def styled : List Definition := (definitions.map (·.2)).filter fun d => d.category != .mode

theorem mem_styled {d : Definition} :
    d ∈ styled ↔ d ∈ definitions.map (·.2) ∧ d.category ≠ .mode := by
  rw [styled, List.mem_filter, bne_iff_ne]

/-! ## The table -/

theorem definition?_mem {name : String} {d : Definition} (h : definition? name = some d) :
    d ∈ definitions.map (·.2) := by
  obtain ⟨before, after, he, -⟩ := List.lookup_eq_some_iff.1 h
  rw [he]
  simp

theorem primary_mem : primary ∈ definitions.map (·.2) := definition?_mem definition?_primary

theorem background_mem : background ∈ definitions.map (·.2) :=
  definition?_mem definition?_background

theorem radius_mem_styled : radius ∈ styled :=
  mem_styled.2 ⟨definition?_mem definition?_radius, by decide⟩

theorem primary_mem_styled : primary ∈ styled := mem_styled.2 ⟨primary_mem, by decide⟩

/-- What the table says of each definition on its own. -/
theorem styled_rows : ∀ d ∈ styled, (d.token ∈ defaultTokens.names ∧ d.token ≠ "mode" ∧
    d.path.entry.isSome = true ∧ plainTokens.contains d.token = (scale? d.token).isSome ∧
    (d.foreground.isSome = true → scale? d.token = none)) ∧
    ∀ f ∈ d.foreground, f ∈ defaultTokens.names ∧ plainTokens.contains f = false ∧
      scale? f = none ∧ definitionOfToken? f = none := by
  decide +kernel

/-- What the table says of two definitions. -/
theorem styled_pairs : ∀ d ∈ styled, ∀ e ∈ styled, (d.path = e.path ↔ d.token = e.token) ∧
    ∀ f ∈ d.foreground, f ∈ e.foreground ↔ e.token = d.token := by
  decide +kernel

theorem token_mem_names (d : Definition) (hd : d ∈ styled) : d.token ∈ defaultTokens.names :=
  (styled_rows d hd).1.1

theorem token_ne_mode (d : Definition) (hd : d ∈ styled) : d.token ≠ "mode" :=
  (styled_rows d hd).1.2.1

theorem path_of_mem (d : Definition) (hd : d ∈ styled) : d.path.entry.isSome = true :=
  (styled_rows d hd).1.2.2.1

/-- The plain tokens among those of the definitions are the ones with a scale. -/
theorem plain_iff_scale (d : Definition) (hd : d ∈ styled) :
    plainTokens.contains d.token = (scale? d.token).isSome :=
  (styled_rows d hd).1.2.2.2.1

/-- What has a foreground is a colour. -/
theorem scale?_of_foreground (d : Definition) (hd : d ∈ styled) :
    d.foreground.isSome = true → scale? d.token = none :=
  (styled_rows d hd).1.2.2.2.2

/-- Entries and tokens correspond. -/
theorem path_eq_iff (d : Definition) (hd : d ∈ styled) (e : Definition) (he : e ∈ styled) :
    d.path = e.path ↔ d.token = e.token :=
  (styled_pairs d hd e he).1

/-- Foregrounds are colours that no definition is bound to. -/
theorem foreground_of_mem (d : Definition) (hd : d ∈ styled) : ∀ f ∈ d.foreground,
    f ∈ defaultTokens.names ∧ plainTokens.contains f = false ∧ scale? f = none ∧
      definitionOfToken? f = none :=
  (styled_rows d hd).2

/-- No definition is bound to a foreground. -/
theorem token_ne_foreground {d e : Definition} (hd : d ∈ styled) {f : String}
    (hf : f ∈ d.foreground) (he : e ∈ styled) : e.token ≠ f := by
  rintro rfl
  have hnone := (foreground_of_mem d hd _ hf).2.2.2
  unfold definitionOfToken? at hnone
  rw [List.find?_eq_none] at hnone
  exact hnone e (mem_styled.1 he).1 (beq_self_eq_true _)

/-- Two definitions share the foreground exactly when they share the token. -/
theorem foreground_mem_iff (d : Definition) (hd : d ∈ styled) (f : String)
    (hf : f ∈ d.foreground) (e : Definition) (he : e ∈ styled) :
    f ∈ e.foreground ↔ e.token = d.token :=
  (styled_pairs d hd e he).2 f hf

theorem mem_styled_of_foreground : ∀ d ∈ definitions.map (·.2), d.foreground.isSome = true →
    d ∈ styled := by
  decide +kernel

theorem definition_of_scale : ∀ s ∈ scales, ∃ d ∈ styled,
    definitionOfToken? s.token = some d ∧ d.token = s.token ∧ d.foreground = none := by
  decide +kernel

/-! ## Look-ups -/

theorem definitionOfToken?_mem {token : String} {d : Definition}
    (h : definitionOfToken? token = some d) : d ∈ definitions.map (·.2) ∧ d.token = token := by
  refine ⟨List.mem_of_find?_eq_some h, ?_⟩
  have := List.find?_some h
  exact beq_iff_eq.1 this

theorem findExact?_mem {term form : String} {f : Finding} (h : findExact? term form = some f) :
    f.definition ∈ definitions.map (·.2) := by
  unfold findExact? at h
  dsimp only at h
  split at h
  · rename_i name d hs
    cases h
    simp only [Option.bind_eq_bind, Option.bind_eq_some_iff, Option.some.injEq] at hs
    obtain ⟨n, -, e, he, hp⟩ := hs
    cases hp
    exact definition?_mem he
  · obtain ⟨d, hd, rfl⟩ := Option.map_eq_some_iff.1 h
    exact definition?_mem hd

theorem findNear?_mem {ρ : Matching.Rounding} {limits : Matching.Limits} {term form : String}
    {f : Finding} (h : findNear? ρ limits term form = some f) :
    f.definition ∈ definitions.map (·.2) := by
  unfold findNear? at h
  simp only [Option.bind_eq_bind, Option.bind_eq_some_iff, Option.some.injEq] at h
  obtain ⟨m, -, d, hd, rfl⟩ := h
  exact definition?_mem hd

theorem resolveTerm?_mem {ρ : Matching.Rounding} {limits : Matching.Limits} {term : String}
    {f : Finding} (h : resolveTerm? ρ limits term = some f) :
    f.definition ∈ definitions.map (·.2) := by
  unfold resolveTerm? at h
  dsimp only at h
  split at h
  · cases h
  · split at h
    · rename_i g hs
      cases h
      obtain ⟨form, -, hf⟩ := List.exists_of_findSome?_eq_some hs
      exact findExact?_mem hf
    · exact findNear?_mem h

theorem resolveSelection_mem (selection : Option Selection) :
    (resolveSelection selection).definition ∈ definitions.map (·.2) := by
  unfold resolveSelection
  split
  · rename_i kind id hs
    dsimp only
    cases hd : definitionOfToken? (tokenOfComponent kind) with
    | none => exact primary_mem
    | some d => exact (definitionOfToken?_mem hd).1
  · exact background_mem
  · exact primary_mem
  · exact primary_mem

/-- **Every binding is to one of the definitions.** -/
theorem resolve_mem {ρ : Matching.Rounding} {limits : Matching.Limits} {intent : Intent}
    {selection : Option Selection} {b : Binding} (h : resolve ρ limits intent selection = .ok b) :
    b.definition ∈ definitions.map (·.2) := by
  unfold resolve at h
  dsimp only at h
  split at h
  · cases h
    exact resolveSelection_mem selection
  · split at h
    · split at h
      · cases h
        exact resolveSelection_mem selection
      · cases h
        exact primary_mem
    · split at h
      · rename_i f hf
        cases h
        exact resolveTerm?_mem hf
      · cases h

end Restyle.Target
