import Restyle.Color.Hsl
import Restyle.Proofs.Text.Trim

/-!
# Reading and writing colour triples

The reader of stored colours tries the ways to cut a decimal off a text one after another.
What it accepts is made of written components, and the longest cut comes first, so that a
triple which is written with single spaces is read back component by component.

* `mem_readings`, `mem_readings_append` — the cuts of a text are its written beginnings.
* `readings_append` — the first cut.
* `triple?_sound` — what an accepted text is made of.
* `triple?_tripleChars` — a written triple is read back.
* `trimmed_of_triple?` — an accepted text has no white space at its ends.
-/

set_option autoImplicit false

namespace Restyle.Color

open Restyle.Text

/-! ## Components -/

/-- A component as it can be written: digits, and at least one before the point. -/
structure Component.Written (c : Component) : Prop where
  whole_ne_nil : c.whole ≠ []
  whole : ∀ d ∈ c.whole, isDigit d = true
  fraction : ∀ d ∈ c.fraction, isDigit d = true

theorem isDigit_point : isDigit '.' = false := by decide

theorem isDigit_percent : isDigit '%' = false := by decide

theorem isDigit_space : isDigit ' ' = false := by decide

theorem Component.mem_digitRows {cs w rest : List Char} (h : (w, rest) ∈ digitRows cs) :
    cs = w ++ rest ∧ w ≠ [] ∧ ∀ d ∈ w, isDigit d = true := by
  simp only [digitRows, List.mem_map, List.mem_range, Prod.mk.injEq] at h
  obtain ⟨k, hk, rfl, rfl⟩ := h
  have hp : cs.takeWhile isDigit <+: cs := List.takeWhile_prefix _
  refine ⟨(List.take_append_drop _ _).symm, ?_, ?_⟩
  · have := hp.length_le
    rw [← List.length_pos_iff, List.length_take]
    omega
  · intro d hd
    have hle : cs.take ((cs.takeWhile isDigit).length - k) <+:
        cs.take (cs.takeWhile isDigit).length := List.take_prefix_take_left (by omega)
    rw [← List.prefix_iff_eq_take.1 hp] at hle
    exact List.mem_takeWhile_imp (hle.subset hd)

/-- A row of digits ends where no digit follows. -/
theorem takeWhile_digits {w rest : List Char} (hw : ∀ d ∈ w, isDigit d = true)
    (hrest : ∀ d ∈ rest.head?, isDigit d = false) : (w ++ rest).takeWhile isDigit = w := by
  rw [List.takeWhile_append_of_pos hw]
  cases rest with
  | nil => simp
  | cons d ds => simp [hrest d rfl]

theorem Component.digitRows_append {w : List Char} (hne : w ≠ [])
    (hw : ∀ d ∈ w, isDigit d = true) (rest : List Char)
    (hrest : ∀ d ∈ rest.head?, isDigit d = false) :
    ∃ others, digitRows (w ++ rest) = (w, rest) :: others := by
  have htake := takeWhile_digits hw hrest
  obtain ⟨n, hn⟩ : ∃ n, w.length = n + 1 := ⟨w.length - 1, by
    have := List.length_pos_iff.2 hne; omega⟩
  unfold digitRows
  dsimp only
  rw [htake, hn, List.range_succ_eq_map, List.map_cons, Nat.sub_zero, ← hn, List.take_left,
    List.drop_left]
  exact ⟨_, rfl⟩

/-- Every cut of a text takes a written component off its front. -/
theorem Component.mem_readings {cs rest : List Char} {c : Component}
    (h : (c, rest) ∈ readings cs) : cs = c.chars ++ rest ∧ c.Written := by
  simp only [readings, List.mem_flatMap] at h
  obtain ⟨⟨w, after⟩, hw, hmem⟩ := h
  obtain ⟨rfl, hne, hdig⟩ := mem_digitRows hw
  rcases List.mem_append.1 hmem with hf | hf
  · dsimp only at hf
    split at hf
    · rename_i fractions
      obtain ⟨⟨f, r⟩, hfr, heq⟩ := List.mem_map.1 hf
      obtain ⟨rfl, hfne, hfdig⟩ := mem_digitRows hfr
      simp only [Prod.mk.injEq] at heq
      obtain ⟨rfl, rfl⟩ := heq
      refine ⟨?_, hne, hdig, hfdig⟩
      simp [chars, hfne]
    · cases hf
  · simp only [List.mem_singleton, Prod.mk.injEq] at hf
    obtain ⟨rfl, rfl⟩ := hf
    exact ⟨by simp [chars], hne, hdig, by simp⟩

theorem Component.mem_digitRows_append {w : List Char} (hne : w ≠ [])
    (hw : ∀ d ∈ w, isDigit d = true) (rest : List Char) : (w, rest) ∈ digitRows (w ++ rest) := by
  have hcount : ((w ++ rest).takeWhile isDigit).length =
      w.length + (rest.takeWhile isDigit).length := by
    rw [List.takeWhile_append_of_pos hw, List.length_append]
  have hpos := List.length_pos_iff.2 hne
  simp only [digitRows, List.mem_map, List.mem_range, hcount]
  refine ⟨(rest.takeWhile isDigit).length, by omega, ?_⟩
  rw [Nat.add_sub_cancel, List.take_left, List.drop_left]

/-- Every written component is among the cuts of a text that begins with it, whatever follows. -/
theorem Component.mem_readings_append {c : Component} (hc : c.Written) (rest : List Char) :
    (c, rest) ∈ readings (c.chars ++ rest) := by
  obtain ⟨whole, fraction⟩ := c
  obtain ⟨hne, hw, hf⟩ := hc
  dsimp only at hne hw hf
  simp only [readings, List.mem_flatMap]
  cases fraction with
  | nil => exact ⟨(whole, rest), mem_digitRows_append hne hw rest, by simp⟩
  | cons f fs =>
    refine ⟨(whole, '.' :: (f :: fs ++ rest)), ?_, List.mem_append_left _ ?_⟩
    · rw [chars, List.isEmpty_cons, if_neg Bool.false_ne_true, List.append_assoc]
      exact mem_digitRows_append hne hw _
    · have hmem := mem_digitRows_append (List.cons_ne_nil f fs) hf rest
      exact List.mem_map.2 ⟨(f :: fs, rest), hmem, rfl⟩

/-- The first cut takes a whole component that no digit and no point follows. -/
theorem Component.readings_append {c : Component} (hc : c.Written) (rest : List Char)
    (hrest : ∀ d ∈ rest.head?, isDigit d = false ∧ d ≠ '.') :
    ∃ others, readings (c.chars ++ rest) = (c, rest) :: others := by
  obtain ⟨whole, fraction⟩ := c
  obtain ⟨hne, hw, hf⟩ := hc
  dsimp only at hne hw hf
  cases fraction with
  | nil =>
    obtain ⟨others, ho⟩ := digitRows_append hne hw rest (fun d hd => (hrest d hd).1)
    have hpoint : ∀ after, rest ≠ '.' :: after := by
      rintro after rfl
      exact (hrest '.' rfl).2 rfl
    simp only [chars, List.isEmpty_nil, if_true, readings, ho, List.flatMap_cons]
    exact ⟨_, rfl⟩
  | cons f fs =>
    obtain ⟨others, ho⟩ := digitRows_append hne hw ('.' :: (f :: fs) ++ rest)
      (by rintro d ⟨⟩; exact isDigit_point)
    obtain ⟨more, hm⟩ := digitRows_append (by simp) hf rest
      (fun d hd => (hrest d hd).1)
    rw [List.cons_append] at ho
    simp only [chars, List.isEmpty_cons, Bool.false_eq_true, if_false, readings,
      List.append_assoc, List.cons_append] at ho hm ⊢
    simp only [ho, List.flatMap_cons, hm, List.map_cons, List.cons_append]
    exact ⟨_, rfl⟩

theorem Component.head?_chars {c : Component} (hc : c.Written) :
    ∃ d rest, c.chars = d :: rest ∧ isDigit d = true := by
  obtain ⟨whole, fraction⟩ := c
  obtain ⟨hne, hw, -⟩ := hc
  dsimp only at hne hw
  cases whole with
  | nil => exact absurd rfl hne
  | cons d ds =>
    refine ⟨d, if fraction.isEmpty then ds else ds ++ '.' :: fraction, ?_, hw d List.mem_cons_self⟩
    unfold chars
    split <;> simp_all

/-- A component has digits and at most a point. -/
theorem Component.mem_chars {c : Component} (hc : c.Written) {d : Char} (hd : d ∈ c.chars) :
    isDigit d = true ∨ d = '.' := by
  unfold chars at hd
  split at hd
  · exact .inl (hc.whole d hd)
  · rcases List.mem_append.1 hd with hd | hd
    · exact .inl (hc.whole d hd)
    · rcases List.mem_cons.1 hd with rfl | hd
      · exact .inr rfl
      · exact .inl (hc.fraction d hd)

theorem Component.percent_not_mem {c : Component} (hc : c.Written) : '%' ∉ c.chars := by
  intro hd
  rcases c.mem_chars hc hd with hdig | hpoint
  · rw [isDigit_percent] at hdig
    cases hdig
  · cases hpoint

/-! ## Separators -/

theorem skipBlanks_chars {c : Component} (hc : c.Written) (rest : List Char) :
    skipBlanks (c.chars ++ rest) = c.chars ++ rest := by
  obtain ⟨d, ds, hd, hdig⟩ := c.head?_chars hc
  rw [hd]
  exact List.dropWhile_cons_of_neg (by simp [isBlank_of_isDigit hdig])

theorem skipSomeBlanks?_chars {c : Component} (hc : c.Written) (rest : List Char) :
    skipSomeBlanks? (' ' :: (c.chars ++ rest)) = some (c.chars ++ rest) := by
  have hs : isBlank ' ' = true := by decide
  rw [skipSomeBlanks?, if_pos hs, skipBlanks_chars hc]

theorem skipSomeBlanks?_sound {cs rest : List Char} (h : skipSomeBlanks? cs = some rest) :
    ∃ blanks, cs = blanks ++ rest := by
  cases cs with
  | nil => cases h
  | cons c cs =>
    rw [skipSomeBlanks?] at h
    split at h
    · cases h
      obtain ⟨t, ht⟩ := List.dropWhile_suffix isBlank (l := cs)
      exact ⟨c :: t, by rw [List.cons_append]; exact congrArg _ ht.symm⟩
    · cases h

theorem expect?_sound {c : Char} {cs rest : List Char} (h : expect? c cs = some rest) :
    cs = c :: rest := by
  cases cs with
  | nil => cases h
  | cons d cs =>
    rw [expect?] at h
    split at h
    · rename_i hd
      cases h
      rw [eq_of_beq hd]
    · cases h

/-! ## Triples -/

/-- A triple with single spaces. -/
def tripleChars (h s l : Component) : List Char :=
  h.chars ++ ' ' :: (s.chars ++ '%' :: ' ' :: (l.chars ++ ['%']))

/-- **A written triple is read back.** -/
theorem triple?_tripleChars {h s l : Component} (hh : h.Written) (hs : s.Written)
    (hl : l.Written) : triple? (tripleChars h s l) = some (h, s, l) := by
  obtain ⟨oh, eh⟩ := Component.readings_append hh
    (' ' :: (s.chars ++ '%' :: ' ' :: (l.chars ++ ['%'])))
    (by rintro d ⟨⟩; exact ⟨isDigit_space, by decide⟩)
  obtain ⟨os, es⟩ := Component.readings_append hs ('%' :: ' ' :: (l.chars ++ ['%']))
    (by rintro d ⟨⟩; exact ⟨isDigit_percent, by decide⟩)
  obtain ⟨ol, el⟩ := Component.readings_append hl ['%']
    (by rintro d ⟨⟩; exact ⟨isDigit_percent, by decide⟩)
  unfold triple? tripleChars
  rw [eh, List.findSome?_cons]
  simp only [skipSomeBlanks?_chars hs, Option.bind_eq_bind, Option.bind_some, es,
    List.findSome?_cons, expect?, beq_self_eq_true, if_true, skipSomeBlanks?_chars hl, el,
    List.isEmpty_nil]

/-- **What an accepted text is made of.** -/
theorem triple?_sound {cs : List Char} {h s l : Component} (ht : triple? cs = some (h, s, l)) :
    h.Written ∧ s.Written ∧ l.Written ∧
      ∃ b b', cs = h.chars ++ (b ++ (s.chars ++ '%' :: (b' ++ (l.chars ++ ['%'])))) := by
  obtain ⟨⟨h₁, r₁⟩, hm₁, e₁⟩ := List.exists_of_findSome?_eq_some ht
  obtain ⟨rfl, w₁⟩ := Component.mem_readings hm₁
  simp only [Option.bind_eq_bind, Option.bind_eq_some_iff] at e₁
  obtain ⟨r₂, hb, e₂⟩ := e₁
  obtain ⟨b, rfl⟩ := skipSomeBlanks?_sound hb
  obtain ⟨⟨s₁, r₃⟩, hm₂, e₃⟩ := List.exists_of_findSome?_eq_some e₂
  obtain ⟨rfl, w₂⟩ := Component.mem_readings hm₂
  simp only [Option.bind_eq_some_iff] at e₃
  obtain ⟨r₄, hp, r₅, hb', e₄⟩ := e₃
  obtain rfl := expect?_sound hp
  obtain ⟨b', rfl⟩ := skipSomeBlanks?_sound hb'
  obtain ⟨⟨l₁, r₆⟩, hm₃, e₅⟩ := List.exists_of_findSome?_eq_some e₄
  obtain ⟨rfl, w₃⟩ := Component.mem_readings hm₃
  simp only [Option.bind_eq_some_iff] at e₅
  obtain ⟨r₇, hp', e₆⟩ := e₅
  obtain rfl := expect?_sound hp'
  split at e₆
  · rename_i hnil
    simp only [Option.some.injEq, Prod.mk.injEq] at e₆
    obtain ⟨rfl, rfl, rfl⟩ := e₆
    rw [List.isEmpty_iff] at hnil
    subst hnil
    exact ⟨w₁, w₂, w₃, b, b', rfl⟩
  · cases e₆

/-- An accepted text begins with a digit and ends with a percent sign. -/
theorem trimmed_of_triple? {cs : List Char} (ht : (triple? cs).isSome = true) : Trimmed cs := by
  obtain ⟨⟨h, s, l⟩, e⟩ := Option.isSome_iff_exists.1 ht
  obtain ⟨w, -, -, b, b', rfl⟩ := triple?_sound e
  obtain ⟨d, ds, hd, hdig⟩ := h.head?_chars w
  constructor
  · rw [hd]
    rintro c ⟨⟩
    exact isBlank_of_isDigit hdig
  · intro c hc
    have hlast :
        '%' ∈ (h.chars ++ (b ++ (s.chars ++ '%' :: (b' ++ (l.chars ++ ['%']))))).getLast? := by
      simp [List.getLast?_append, List.getLast?_cons]
    rw [Option.mem_unique hc hlast]
    decide

end Restyle.Color
