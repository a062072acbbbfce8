import Restyle.Proofs.Color.Notations
import Restyle.Proofs.Text.Settled
import Restyle.Proofs.Text.Words

/-!
# An `hsl(…)` with two components

The separators of an `hsl(…)` are optional, so that a component may be cut in two where nothing
separates it.  A text with two components is therefore taken for one with three exactly when the
first can be cut: when it has two digits before the point or two after it.

* `Gap` — white space around a comma or none, and `skipSeparator_gap`.
* `Component.exists_cut_iff` — the components that can be cut in two.
* `HslPair`, `isNotation_hslPair` — the texts with two components, and which are notations.
* `HslPair.tableKey`, `HslPair.eq_hsl` — such a text in lower case, and the letters in it.
-/

set_option autoImplicit false

namespace Restyle.Color

open Restyle.Text

/-! ## White space and separators -/

/-- Only white space. -/
def Blanks (cs : List Char) : Prop := ∀ c ∈ cs, isBlank c = true

instance (cs : List Char) : Decidable (Blanks cs) :=
  inferInstanceAs (Decidable (∀ c ∈ cs, isBlank c = true))

theorem skipBlanks_append {b : List Char} (hb : Blanks b) (rest : List Char) :
    skipBlanks (b ++ rest) = skipBlanks rest :=
  List.dropWhile_append_of_pos hb

/-- White space around a comma or none. -/
inductive Gap : List Char → Prop
  | blanks {b : List Char} (hb : Blanks b) : Gap b
  | comma {b b' : List Char} (hb : Blanks b) (hb' : Blanks b') : Gap (b ++ ',' :: b')

theorem skipSeparator_eq_self {cs : List Char}
    (h : ∀ c ∈ cs.head?, isBlank c = false ∧ c ≠ ',') : skipSeparator cs = cs := by
  have hs : skipBlanks cs = cs := dropWhile_eq_self fun c hc => (h c hc).1
  unfold skipSeparator
  rw [hs]
  split
  · exact absurd rfl (h ',' rfl).2
  · rfl

theorem not_separator_of_isDigit {c : Char} (h : isDigit c = true) :
    isBlank c = false ∧ c ≠ ',' := by
  refine ⟨isBlank_of_isDigit h, ?_⟩
  rintro rfl
  revert h
  decide

/-- A separator is dropped before a component. -/
theorem skipSeparator_gap {gap : List Char} (hg : Gap gap) {c : Component} (hc : c.Written)
    (rest : List Char) : skipSeparator (gap ++ (c.chars ++ rest)) = c.chars ++ rest := by
  cases hg with
  | blanks hb =>
    obtain ⟨d, ds, hd, hdig⟩ := c.head?_chars hc
    have hself : skipSeparator (c.chars ++ rest) = c.chars ++ rest := by
      apply skipSeparator_eq_self
      rw [hd]
      rintro _ ⟨⟩
      exact not_separator_of_isDigit hdig
    rwa [skipSeparator, skipBlanks_append hb, ← skipSeparator]
  | @comma b b' hb hb' =>
    have hcomma : ∀ cs, skipBlanks (',' :: cs) = ',' :: cs := fun cs =>
      List.dropWhile_cons_of_neg (by decide)
    rw [skipSeparator, List.append_assoc, skipBlanks_append hb, List.cons_append, hcomma]
    change skipBlanks (b' ++ (c.chars ++ rest)) = _
    rw [skipBlanks_append hb', skipBlanks_chars hc]

/-! ## Cutting a component in two -/

/-- The cuts of a text before a percent sign leave the rest of it. -/
theorem Component.cut_of_mem_readings {cs tail r : List Char} {c : Component}
    (h : (c, r) ∈ readings (cs ++ '%' :: tail)) :
    ∃ z, cs = c.chars ++ z ∧ r = z ++ '%' :: tail := by
  obtain ⟨he, hc⟩ := mem_readings h
  rcases List.append_eq_append_iff.1 he with ⟨z, hz, hr⟩ | ⟨z, hz, hr⟩
  · -- a component does not go over the percent sign
    cases z with
    | nil => exact ⟨[], by simpa using hz.symm, hr.symm⟩
    | cons d z =>
      rw [List.cons_append, List.cons.injEq] at hr
      rw [← hr.1] at hz
      exact absurd (hz ▸ List.mem_append_right cs List.mem_cons_self) (c.percent_not_mem hc)
  · exact ⟨z, hz, hr⟩

/-- A cut that ends at the percent sign takes everything before it. -/
theorem Component.eq_of_mem_readings {cs tail r : List Char} (hp : '%' ∉ cs) {c : Component}
    (h : (c, '%' :: r) ∈ readings (cs ++ '%' :: tail)) : cs = c.chars ∧ r = tail := by
  obtain ⟨z, rfl, hr⟩ := cut_of_mem_readings h
  cases z with
  | nil =>
    rw [List.nil_append, List.cons.injEq] at hr
    exact ⟨List.append_nil _, hr.2⟩
  | cons d z =>
    rw [List.cons_append, List.cons.injEq] at hr
    exact absurd (hr.1 ▸ List.mem_append_right _ List.mem_cons_self) hp

theorem Component.exists_last {c : Component} (hc : c.Written) :
    ∃ front d, c.chars = front ++ [d] ∧ isDigit d = true := by
  obtain ⟨whole, fraction⟩ := c
  obtain ⟨hne, hw, hf⟩ := hc
  dsimp only at hne hw hf
  rcases List.eq_nil_or_concat fraction with rfl | ⟨front, d, rfl⟩
  · obtain ⟨front, d, rfl⟩ := (List.eq_nil_or_concat whole).resolve_left hne
    exact ⟨front, d, by simp [chars], hw d (by simp)⟩
  · exact ⟨whole ++ '.' :: front, d, by simp [chars], hf d (by simp)⟩

/-- Where a component is cut in two, two digits stand side by side. -/
theorem Component.exists_digits_of_cut {x h s : Component} (hh : h.Written) (hs : s.Written)
    (he : h.chars ++ s.chars = x.chars) :
    ∃ front a b rest, x.chars = front ++ a :: b :: rest ∧ isDigit a = true ∧ isDigit b = true := by
  obtain ⟨front, a, ha, hda⟩ := h.exists_last hh
  obtain ⟨b, rest, hb, hdb⟩ := s.head?_chars hs
  refine ⟨front, a, b, rest, ?_, hda, hdb⟩
  rw [← he, ha, hb, List.append_assoc, List.singleton_append]

/-- So there are two digits before the point or two after it. -/
theorem Component.long_of_digits {x : Component} (hx : x.Written) {front rest : List Char}
    {a b : Char} (he : x.chars = front ++ a :: b :: rest) (ha : isDigit a = true)
    (hb : isDigit b = true) : 2 ≤ x.whole.length ∨ 2 ≤ x.fraction.length := by
  obtain ⟨whole, fraction⟩ := x
  by_contra hshort
  dsimp only at hshort
  have hpos : 0 < whole.length := List.length_pos_iff.2 hx.1
  have hfraction : fraction.length < 2 := by omega
  obtain ⟨d, rfl⟩ : ∃ d, whole = [d] := List.length_eq_one_iff.1 (by omega)
  cases fraction with
  | nil =>
    change [d] = front ++ a :: b :: rest at he
    have hlength := congrArg List.length he
    simp only [List.length_append, List.length_cons, List.length_nil] at hlength
    omega
  | cons e es =>
    rw [List.length_cons] at hfraction
    obtain rfl : es = [] := List.length_eq_zero_iff.1 (by omega)
    change [d, '.', e] = front ++ a :: b :: rest at he
    -- one of the two would be the point
    match front with
    | [] =>
      simp only [List.nil_append, List.cons.injEq] at he
      rw [← he.2.1, isDigit_point] at hb
      cases hb
    | [c] =>
      simp only [List.singleton_append, List.cons.injEq] at he
      rw [← he.2.1, isDigit_point] at ha
      cases ha
    | _ :: _ :: front =>
      have hlength := congrArg List.length he
      simp only [List.length_append, List.length_cons, List.length_nil] at hlength
      omega

/-- Two digits before the point are a cut after the first of them. -/
theorem Component.exists_cut_of_whole {x : Component} (hx : x.Written)
    (hlong : 2 ≤ x.whole.length) :
    ∃ h s : Component, h.Written ∧ s.Written ∧ h.chars ++ s.chars = x.chars := by
  obtain ⟨whole, fraction⟩ := x
  obtain ⟨-, hw, hf⟩ := hx
  match whole, hlong with
  | d :: e :: ds, _ =>
    refine ⟨⟨[d], []⟩, ⟨e :: ds, fraction⟩, ⟨by simp, by simpa using hw d List.mem_cons_self,
      by simp⟩, ⟨by simp, fun c hc => hw c (List.mem_cons_of_mem _ hc), hf⟩, ?_⟩
    cases fraction <;> rfl

/-- Two digits after the point are a cut after the first of them. -/
theorem Component.exists_cut_of_fraction {x : Component} (hx : x.Written)
    (hlong : 2 ≤ x.fraction.length) :
    ∃ h s : Component, h.Written ∧ s.Written ∧ h.chars ++ s.chars = x.chars := by
  obtain ⟨whole, fraction⟩ := x
  obtain ⟨hne, hw, hf⟩ := hx
  match fraction, hlong with
  | d :: e :: ds, _ =>
    refine ⟨⟨whole, [d]⟩, ⟨e :: ds, []⟩, ⟨hne, hw, by simpa using hf d List.mem_cons_self⟩,
      ⟨by simp, fun c hc => hf c (List.mem_cons_of_mem _ hc), by simp⟩, ?_⟩
    simp [chars]

/-- **A component can be cut in two** when it has two digits before the point or after it. -/
theorem Component.exists_cut_iff {x : Component} (hx : x.Written) :
    (∃ h s : Component, h.Written ∧ s.Written ∧ h.chars ++ s.chars = x.chars) ↔
      2 ≤ x.whole.length ∨ 2 ≤ x.fraction.length := by
  constructor
  · rintro ⟨h, s, hh, hs, he⟩
    obtain ⟨front, a, b, rest, hdigits, ha, hb⟩ := exists_digits_of_cut hh hs he
    exact long_of_digits hx hdigits ha hb
  · rintro (hlong | hlong)
    · exact exists_cut_of_whole hx hlong
    · exact exists_cut_of_fraction hx hlong

/-! ## Two components -/

theorem expectWord?_append {w cs : List Char} (h : cs.map foldChar = w) (rest : List Char) :
    expectWord? w (cs ++ rest) = some rest := by
  induction cs generalizing w with
  | nil =>
    subst h
    rfl
  | cons c cs ih =>
    subst h
    rw [List.map_cons, List.cons_append, expectWord?, if_pos (beq_self_eq_true _)]
    exact ih rfl

/-- The text of an `hsl(…)` with two components, both with a percent sign. -/
inductive HslPair (x y : Component) : List Char → Prop
  | intro {word before gap after : List Char} (letters : word.map foldChar = ['h', 's', 'l'])
    (hb : Blanks before) (hg : Gap gap) (ha : Blanks after) :
    HslPair x y (word ++ '(' ::
      (before ++ (x.chars ++ '%' :: (gap ++ (y.chars ++ '%' :: (after ++ [')']))))))

variable {x y : Component} {cs : List Char}

theorem expectWord?_hsl {word : List Char} (letters : word.map foldChar = ['h', 's', 'l'])
    (rest : List Char) : expectWord? ['h', 's', 'l', '('] (word ++ '(' :: rest) = some rest := by
  have hword : (word ++ ['(']).map foldChar = ['h', 's', 'l', '('] := by
    rw [List.map_append, letters]
    rfl
  have hrest := expectWord?_append hword rest
  rwa [List.append_assoc] at hrest

/-- An `hsl(…)` with two components is read only by cutting the first in two, and to its end. -/
theorem HslPair.cut (hp : HslPair x y cs) (hx : x.Written) (hy : y.Written) {h s l : Component}
    {r₀ r₁ r₂ r₃ rest : List Char} (hc : HslCuts cs h s l r₀ r₁ r₂ r₃ rest) :
    h.chars ++ s.chars = x.chars ∧ rest = [] := by
  cases hp with
  | @intro word before gap after letters hb hg ha =>
    obtain ⟨hopens, hhue, hsaturation, hlightness, hcloses⟩ := hc
    rw [expectWord?_hsl letters, Option.some.injEq] at hopens
    rw [← hopens, skipBlanks_append hb, skipBlanks_chars hx] at hhue
    obtain ⟨z, hz, hr₁⟩ := Component.cut_of_mem_readings hhue
    -- what is left of the first component begins with no separator
    have hsub : ∀ c ∈ z, c ∈ x.chars := fun c hc => hz ▸ List.mem_append_right h.chars hc
    have hself : skipSeparator r₁ = r₁ := by
      apply skipSeparator_eq_self
      rw [hr₁]
      intro c hc
      cases z with
      | nil =>
        cases hc
        decide
      | cons d z =>
        cases hc
        rcases x.mem_chars hx (hsub c List.mem_cons_self) with hdig | rfl
        · exact not_separator_of_isDigit hdig
        · decide
    rw [hself, hr₁] at hsaturation
    have hpercent : '%' ∉ z := fun hm => x.percent_not_mem hx (hsub _ hm)
    obtain ⟨hzs, hr₂⟩ := Component.eq_of_mem_readings hpercent hsaturation
    rw [hr₂, skipSeparator_gap hg hy] at hlightness
    obtain ⟨-, hr₃⟩ := Component.eq_of_mem_readings (y.percent_not_mem hy) hlightness
    rw [hr₃, skipBlanks_append ha] at hcloses
    cases hcloses
    exact ⟨by rw [hz, hzs], rfl⟩

/-- It is read when the first can be cut in two. -/
theorem HslPair.exists_cuts (hp : HslPair x y cs) (hy : y.Written) {h s : Component}
    (hh : h.Written) (hs : s.Written) (he : h.chars ++ s.chars = x.chars) :
    ∃ r₀ r₁ r₂ r₃, HslCuts cs h s y r₀ r₁ r₂ r₃ [] := by
  cases hp with
  | @intro word before gap after letters hb hg ha =>
    refine ⟨_, s.chars ++ '%' :: (gap ++ (y.chars ++ '%' :: (after ++ [')']))),
      gap ++ (y.chars ++ '%' :: (after ++ [')'])), after ++ [')'], expectWord?_hsl letters _,
      ?_, ?_, ?_, ?_⟩
    · rw [skipBlanks_append hb, ← he, List.append_assoc, skipBlanks_chars hh]
      exact Component.mem_readings_append hh _
    · have hgap := skipSeparator_gap (.blanks (List.forall_mem_nil _)) hs
        ('%' :: (gap ++ (y.chars ++ '%' :: (after ++ [')']))))
      rw [List.nil_append] at hgap
      rw [hgap]
      exact Component.mem_readings_append hs _
    · rw [skipSeparator_gap hg hy]
      exact Component.mem_readings_append hy _
    · rw [skipBlanks_append ha]
      rfl

/-! ## What begins with a letter -/

/-- What is folded to a letter is no digit. -/
theorem not_isDigit_of_foldChar {c : Char} (h : isDigit (foldChar c) = false) :
    isDigit c = false := by
  by_contra hc
  rw [Bool.not_eq_false] at hc
  rw [caseless_digit.foldChar_of_mem ((isDigit_iff c).1 hc), hc] at h
  cases h

/-- A triple begins with a digit. -/
theorem triple?_eq_none {c : Char} (h : isDigit c = false) (rest : List Char) :
    triple? (c :: rest) = none := by
  rw [triple?, Component.readings, Component.digitRows, List.takeWhile_cons_of_neg (by simp [h])]
  rfl

/-- A hexadecimal colour begins with its sign. -/
theorem hex?_eq_none {c : Char} (h : c ≠ '#') (rest : List Char) : hex? (c :: rest) = none := by
  unfold hex?
  split
  · rename_i hcons
    exact absurd (List.cons.inj hcons).1 h
  · rfl

/-- What begins with a letter is neither. -/
theorem triple?_hex?_eq_none {c : Char} (hdigit : isDigit (foldChar c) = false)
    (hsign : foldChar c ≠ '#') (rest : List Char) :
    triple? (c :: rest) = none ∧ hex? (c :: rest) = none := by
  refine ⟨triple?_eq_none (not_isDigit_of_foldChar hdigit) rest, hex?_eq_none ?_ rest⟩
  rintro rfl
  exact hsign (by decide)

/-- A text from a character that is no white space to a closing bracket. -/
theorem trimmed_of_bracket (hhead : ∃ c rest, cs = c :: rest ∧ isBlank (foldChar c) = false)
    (hlast : ')' ∈ cs.getLast?) : Trimmed cs where
  head := by
    obtain ⟨c, rest, rfl, hc⟩ := hhead
    rintro _ ⟨⟩
    rwa [← isBlank_foldChar]
  last := by
    intro c hc
    rw [Option.mem_unique hc hlast]
    decide

/-! ## Which of these texts are notations -/

theorem HslPair.exists_head (hp : HslPair x y cs) :
    ∃ c rest, cs = c :: rest ∧ foldChar c = 'h' := by
  cases hp with
  | @intro word before gap after letters hb hg ha =>
    obtain ⟨c, rest, rfl, hc, -⟩ := List.map_eq_cons_iff.1 letters
    exact ⟨c, _, rfl, hc⟩

theorem HslPair.trimmed (hp : HslPair x y cs) : Trimmed cs := by
  obtain ⟨c, rest, he, hc⟩ := hp.exists_head
  refine trimmed_of_bracket ⟨c, rest, he, by rw [hc]; decide⟩ ?_
  cases hp
  simp [List.getLast?_append, List.getLast?_cons]

/-- Such a text can be no other notation. -/
theorem HslPair.isNotation_iff (hp : HslPair x y cs) (hx : x.Written) (hy : y.Written) :
    isNotation (String.ofList cs) = true ↔ (hslFunctionAt? cs).isSome = true := by
  have htrim := hp.trimmed.trimChars_eq
  obtain ⟨c, rest, rfl, hc⟩ := hp.exists_head
  obtain ⟨htriple, hhex⟩ :=
    triple?_hex?_eq_none (by rw [hc]; decide) (by rw [hc]; decide) rest
  have hrgb : rgbAt? (c :: rest) = none := by
    unfold rgbAt?
    rw [expectWord?, hc]
    rfl
  unfold isNotation
  dsimp only
  rw [String.toList_ofList, htrim, htriple, hhex, hrgb]
  cases hf : hslFunctionAt? (c :: rest) with
  | none => simp
  | some found =>
    obtain ⟨⟨h, s, l⟩, after⟩ := found
    obtain ⟨r₀, r₁, r₂, r₃, hcuts⟩ := hslFunctionAt?_cuts hf
    simp [(hp.cut hx hy hcuts).2]

/-- **A text with two components is a notation** exactly when the first has two digits before the
point or after it. -/
theorem isNotation_hslPair (hp : HslPair x y cs) (hx : x.Written) (hy : y.Written) :
    isNotation (String.ofList cs) = true ↔ 2 ≤ x.whole.length ∨ 2 ≤ x.fraction.length := by
  rw [← Component.exists_cut_iff hx, hp.isNotation_iff hx hy]
  constructor
  · intro hsome
    obtain ⟨⟨⟨h, s, l⟩, rest⟩, hf⟩ := Option.isSome_iff_exists.1 hsome
    obtain ⟨r₀, r₁, r₂, r₃, hc⟩ := hslFunctionAt?_cuts hf
    exact ⟨h, s, (Component.mem_readings hc.hue).2, (Component.mem_readings hc.saturation).2,
      (hp.cut hx hy hc).1⟩
  · rintro ⟨h, s, hh, hs, he⟩
    obtain ⟨r₀, r₁, r₂, r₃, hc⟩ := hp.exists_cuts hy hh hs he
    exact hslFunctionAt?_isSome hc

/-! ## In lower case -/

theorem Gap.mem {gap : List Char} (hg : Gap gap) {c : Char} (hc : c ∈ gap) :
    isBlank c = true ∨ c = ',' := by
  cases hg with
  | blanks hb => exact .inl (hb c hc)
  | comma hb hb' =>
    rcases List.mem_append.1 hc with hc | hc
    · exact .inl (hb c hc)
    · exact (List.mem_cons.1 hc).symm.imp_left (hb' c)

/-- The code points of the signs of a notation. -/
def signPoints : List Nat := ['(', ')', '%', ',', '.'].map Char.toNat

/-- White space, digits and signs. -/
def IsPlain (n : Nat) : Prop := n ∈ blankPoints ∨ n ∈ digitPoints ∨ n ∈ signPoints

theorem letterBlocks_signs : ∀ n ∈ signPoints, ∀ b ∈ letterBlocks, n < b.1 := by decide

/-- None of them is a letter. -/
theorem caseless_plain : Caseless IsPlain :=
  caseless_blank.or (caseless_digit.or
    { apart := fun n hn b hb => .inl (letterBlocks_signs n hn b hb), null := by decide })

theorem isPlain_blank {c : Char} (h : isBlank c = true) : IsPlain c.toNat :=
  .inl ((isBlank_iff c).1 h)

theorem isPlain_sign {n : Nat} (h : n ∈ signPoints) : IsPlain n := .inr (.inr h)

theorem Component.isPlain {c : Component} (hc : c.Written) : ∀ d ∈ c.chars, IsPlain d.toNat := by
  intro d hd
  rcases c.mem_chars hc hd with hdig | rfl
  · exact .inr (.inl ((isDigit_iff d).1 hdig))
  · exact isPlain_sign (by decide)

theorem Gap.isPlain {gap : List Char} (hg : Gap gap) : ∀ c ∈ gap, IsPlain c.toNat := by
  intro c hc
  rcases hg.mem hc with hblank | rfl
  · exact isPlain_blank hblank
  · exact isPlain_sign (by decide)

/-- No letter follows those before the bracket. -/
theorem isPlain_tail (hx : x.Written) (hy : y.Written) {before gap after : List Char}
    (hb : Blanks before) (hg : Gap gap) (ha : Blanks after) :
    ∀ c ∈ '(' :: (before ++ (x.chars ++ '%' :: (gap ++ (y.chars ++ '%' :: (after ++ [')']))))),
      IsPlain c.toNat := by
  simp only [List.forall_mem_cons, List.forall_mem_append]
  exact ⟨isPlain_sign (by decide), fun c hc => isPlain_blank (hb c hc), Component.isPlain hx,
    isPlain_sign (by decide), hg.isPlain, Component.isPlain hy, isPlain_sign (by decide),
    fun c hc => isPlain_blank (ha c hc), isPlain_sign (by decide), List.forall_mem_nil _⟩

/-- The letters before the bracket in lower case; a long s has no other. -/
theorem lowerFrom_hsl {word : List Char} (letters : word.map foldChar = ['h', 's', 'l'])
    {tail : List Char} (htail : ∀ c ∈ tail, IsPlain c.toNat) : ∃ s, (s = 's' ∨ s = 'ſ') ∧
      lowerChars (word ++ tail) = ['h', s, 'l'] ++ tail := by
  obtain ⟨h, word, rfl, hh, letters⟩ := List.map_eq_cons_iff.1 letters
  obtain ⟨s, word, rfl, hs, letters⟩ := List.map_eq_cons_iff.1 letters
  obtain ⟨l, word, rfl, hl, letters⟩ := List.map_eq_cons_iff.1 letters
  obtain rfl := List.map_eq_nil_iff.1 letters
  simp only [List.cons_append, List.nil_append]
  obtain ⟨h', n, eh, fh⟩ := lowerFrom_letter (by rw [hh]; decide) (by rw [hh]; decide) false _
  obtain ⟨s', n', es, fs⟩ := lowerFrom_letter (by rw [hs]; decide) (by rw [hs]; decide) n _
  obtain ⟨l', n'', el, fl⟩ := lowerFrom_letter (by rw [hl]; decide) (by rw [hl]; decide) n' _
  rw [hh] at fh
  rw [hs] at fs
  rw [hl] at fl
  obtain rfl := fh.resolve_right fun hlong => absurd hlong.1 (by decide)
  obtain rfl := fl.resolve_right fun hlong => absurd hlong.1 (by decide)
  rw [lowerChars, eh, es, el, lowerFrom_of_settled fun c hc => caseless_plain.settled (htail c hc)]
  exact ⟨s', fs.imp_right And.right, rfl⟩

/-- Lowering leaves everything alone but the letters before the bracket. -/
theorem HslPair.lowered (hp : HslPair x y cs) (hx : x.Written) (hy : y.Written) :
    HslPair x y (lowerChars cs) := by
  cases hp with
  | @intro word before gap after letters hb hg ha =>
    obtain ⟨s, hs, he⟩ := lowerFrom_hsl letters (isPlain_tail hx hy hb hg ha)
    rw [he]
    refine .intro ?_ hb hg ha
    rcases hs with rfl | rfl <;> decide

theorem HslPair.lower {v : String} (hp : HslPair x y v.toList) (hx : x.Written)
    (hy : y.Written) : HslPair x y (Text.lower v).toList := by
  rw [Text.lower, String.toList_ofList]
  exact hp.lowered hx hy

theorem HslPair.tableKey {v : String} (hp : HslPair x y v.toList) (hx : x.Written)
    (hy : y.Written) : HslPair x y (Vocabulary.tableKey v).toList := by
  have hlow := hp.lower hx hy
  rwa [Vocabulary.tableKey, trim, String.toList_ofList, hlow.trimmed.trimChars_eq]

/-! ## Letters and signs in it -/

theorem filter_isLower {tail : List Char} (h : ∀ c ∈ tail, IsPlain c.toNat) :
    tail.filter Char.isLower = [] := by
  rw [List.filter_eq_nil_iff]
  intro c hc
  rw [caseless_plain.isLower_of_mem (h c hc)]
  exact Bool.false_ne_true

/-- Its small letters. -/
theorem HslPair.filter_lowered (hp : HslPair x y cs) (hx : x.Written) (hy : y.Written) :
    (lowerChars cs).filter Char.isLower ∈ [['h', 's', 'l'], ['h', 'l']] := by
  cases hp with
  | @intro word before gap after letters hb hg ha =>
    have htail := isPlain_tail hx hy hb hg ha
    obtain ⟨s, hs, he⟩ := lowerFrom_hsl letters htail
    rw [he, List.filter_append, filter_isLower htail, List.append_nil]
    rcases hs with rfl | rfl <;> decide

theorem HslPair.bracket_mem (hp : HslPair x y cs) : '(' ∈ cs := by
  cases hp
  exact List.mem_append_right _ List.mem_cons_self

/-- The signs that stand in every such text. -/
def pairSigns : List Char := ['(', '%', ')']

theorem HslPair.four_signs (hp : HslPair x y cs) : 4 ≤ cs.countP (pairSigns.contains ·) := by
  have hsigns : ∀ c ∈ pairSigns, pairSigns.contains c = true := by decide
  cases hp with
  | intro letters hb hg ha =>
    simp only [List.countP_append, List.countP_cons, hsigns '(' (by decide),
      hsigns '%' (by decide), hsigns ')' (by decide), if_true]
    omega

/-- Three small letters or more stand in such a text only before the bracket. -/
theorem HslPair.eq_hsl (hp : HslPair x y cs) (hx : x.Written) (hy : y.Written) {w : List Char}
    (hw : w <:+: cs) (hlower : ∀ c ∈ w, c.isLower = true) (hlength : 3 ≤ w.length) :
    w = ['h', 's', 'l'] := by
  cases hp with
  | @intro word before gap after letters hb hg ha =>
    have htail := fun c hc => caseless_plain.isLower_of_mem (isPlain_tail hx hy hb hg ha c hc)
    have hword : word.length = 3 := by rw [← List.length_map foldChar, letters, List.length_cons,
      List.length_cons, List.length_cons, List.length_nil]
    obtain rfl : w = word :=
      (infix_of_others_append htail hlower hw).eq_of_length_le (by omega)
    have hfold : w.map foldChar = w := by
      refine (List.map_congr_left fun c hc => ?_).trans (List.map_id w)
      obtain ⟨hl, hh⟩ := toNat_of_isLower (hlower c hc)
      exact foldChar_of_small (by omega) (.inr (by omega))
    rw [← hfold, letters]

end Restyle.Color
