import Mathlib.Data.List.Infix
import Restyle.Numeric.Power
import Restyle.Proofs.Text.Words

/-!
# Rows of digits

How large a number a text can be read as is settled by its rows of digits.  Trimming, cutting
out words, joining them again and putting a text in lower case bring no longer rows about, since
neither white space nor a letter is made a digit.

* `digitsValue_toDigits` — the digits of a whole number denote it.
* `RowsWithin` — no row of digits denotes more than a limit.
* `RowsWithin.lowerChars`, `RowsWithin.trimChars`, `RowsWithin.words`, `RowsWithin.unwords` —
  what keeps a text so.
-/

set_option autoImplicit false

namespace Restyle.Text

open Restyle.Numeric

/-! ## What digits denote -/

/-- The code points of digits. -/
def digitPoints : List Nat := digitZeros.flatMap fun z => (List.range 10).map (z + ·)

theorem mem_digitPoints {n : Nat} : n ∈ digitPoints ↔ ∃ z ∈ digitZeros, z ≤ n ∧ n < z + 10 := by
  simp only [digitPoints, List.mem_flatMap, List.mem_map, List.mem_range]
  constructor
  · rintro ⟨z, hz, i, hi, rfl⟩
    exact ⟨z, hz, by omega, by omega⟩
  · rintro ⟨z, hz, h1, h2⟩
    exact ⟨z, hz, n - z, by omega, by omega⟩

theorem digitZeros_not_ascii : ∀ z ∈ digitZeros, z = 0x30 ∨ 0x80 ≤ z := by decide

/-- Whether a character is a digit, by its code point. -/
theorem isDigit_iff (c : Char) : isDigit c = true ↔ c.toNat ∈ digitPoints := by
  rw [mem_digitPoints]
  unfold isDigit digitValue?
  dsimp only
  split
  · rename_i hascii
    split
    · rename_i hr
      simp only [Bool.and_eq_true, decide_eq_true_eq] at hr
      refine iff_of_true rfl ⟨0x30, by decide, by omega, by omega⟩
    · rename_i hr
      simp only [Bool.and_eq_true, decide_eq_true_eq] at hr
      refine iff_of_false (by simp) ?_
      rintro ⟨z, hz, h1, h2⟩
      rcases digitZeros_not_ascii z hz with rfl | h
      · omega
      · omega
  · simp [List.find?_isSome]

/-- No digit is worth more than nine. -/
theorem digitValue?_le (c : Char) : (digitValue? c).getD 0 ≤ 9 := by
  unfold digitValue?
  dsimp only
  split
  · split
    · rename_i hr
      simp only [Bool.and_eq_true, decide_eq_true_eq] at hr
      simp only [Option.getD_some]
      omega
    · simp
  · cases hf : digitZeros.find? fun z => z ≤ c.toNat && c.toNat < z + 10 with
    | none => simp
    | some z =>
      have hz := List.find?_some hf
      simp only [Bool.and_eq_true, decide_eq_true_eq] at hz
      simp only [Option.map_some, Option.getD_some]
      omega

theorem digitsValue_append_singleton (cs : List Char) (c : Char) :
    digitsValue (cs ++ [c]) = 10 * digitsValue cs + (digitValue? c).getD 0 := by
  rw [digitsValue, List.foldl_append]
  rfl

theorem digitsValue_lt (cs : List Char) : digitsValue cs < tenTo cs.length := by
  induction cs using List.reverseRecOn with
  | nil => decide
  | append_singleton cs c ih =>
    have hc := digitValue?_le c
    rw [digitsValue_append_singleton, List.length_append, List.length_singleton, tenTo_succ]
    omega

/-- Digits that follow others. -/
theorem digitsValue_append (cs ds : List Char) :
    digitsValue (cs ++ ds) = digitsValue cs * tenTo ds.length + digitsValue ds := by
  induction ds using List.reverseRecOn with
  | nil => simp [digitsValue, tenTo]
  | append_singleton ds d ih =>
    rw [← List.append_assoc, digitsValue_append_singleton, ih, digitsValue_append_singleton,
      List.length_append, List.length_singleton, tenTo_succ, ← Nat.mul_assoc]
    omega

theorem digitValue?_digitChar : ∀ d < 10, digitValue? (Nat.digitChar d) = some d := by decide

/-- The digits of a whole number denote it. -/
theorem digitsValue_toDigits (n : Nat) : digitsValue (Nat.toDigits 10 n) = n := by
  induction n using Nat.strongRecOn with
  | ind n ih =>
    rw [Nat.toDigits_eq_if (by decide)]
    split
    · rename_i hn
      simp [digitsValue, digitValue?_digitChar n hn]
    · rename_i hn
      rw [digitsValue_append_singleton, ih (n / 10) (by omega),
        digitValue?_digitChar _ (Nat.mod_lt n (by decide)), Option.getD_some]
      omega

/-! ## Rows -/

/-- No row of digits denotes more than the limit. -/
def RowsWithin (limit : Nat) (cs : List Char) : Prop :=
  ∀ row, row <:+: cs → (∀ d ∈ row, isDigit d = true) → digitsValue row ≤ limit

variable {limit : Nat} {cs ds : List Char}

/-- The rows within a row denote less than the whole. -/
theorem rowsWithin_of_value (h : digitsValue cs ≤ limit) : RowsWithin limit cs := by
  rintro row ⟨before, after, rfl⟩ _
  have hpos := tenTo_pos after.length
  have hrow : digitsValue row ≤ digitsValue (before ++ row) := by
    rw [digitsValue_append]
    exact Nat.le_add_left _ _
  have hall : digitsValue (before ++ row) ≤ digitsValue (before ++ row ++ after) := by
    rw [digitsValue_append _ after]
    exact (Nat.le_mul_of_pos_right _ hpos).trans (Nat.le_add_right _ _)
  exact hrow.trans (hall.trans h)

/-- A short text has no row that denotes much. -/
theorem rowsWithin_of_length (h : tenTo cs.length ≤ limit) : RowsWithin limit cs :=
  rowsWithin_of_value ((digitsValue_lt cs).le.trans h)

theorem rowsWithin_of_no_digit (h : ∀ d ∈ cs, isDigit d = false) : RowsWithin limit cs := by
  intro row hrow hd
  cases row with
  | nil => exact Nat.zero_le limit
  | cons d row =>
    have hdig := hd d List.mem_cons_self
    rw [h d (hrow.subset List.mem_cons_self)] at hdig
    cases hdig

theorem rowsWithin_nil : RowsWithin limit [] := rowsWithin_of_value (Nat.zero_le limit)

theorem RowsWithin.of_isInfix (h : RowsWithin limit cs) (hi : ds <:+: cs) : RowsWithin limit ds :=
  fun row hrow hd => h row (hrow.trans hi) hd

/-- A character that is no digit parts the rows. -/
theorem RowsWithin.append_cons (h : RowsWithin limit cs) {c : Char} (hc : isDigit c = false)
    (h' : RowsWithin limit ds) : RowsWithin limit (cs ++ c :: ds) := by
  intro row hrow hd
  have hnot : c ∉ row := by
    intro hm
    rw [hd c hm] at hc
    cases hc
  rcases List.infix_append_iff.1 hrow with hl | hr | ⟨l₁, l₂, rfl, hl, hr⟩
  · exact h row hl hd
  · rcases List.infix_cons_iff.1 hr with hp | hi
    · rcases List.prefix_cons_iff.1 hp with rfl | ⟨t, rfl, -⟩
      · exact Nat.zero_le _
      · exact absurd List.mem_cons_self hnot
    · exact h' row hi hd
  · rcases List.prefix_cons_iff.1 hr with rfl | ⟨t, rfl, -⟩
    · rw [List.append_nil] at hd ⊢
      exact h l₁ hl.isInfix hd
    · exact absurd (List.mem_append_right l₁ List.mem_cons_self) hnot

theorem RowsWithin.cons (h : RowsWithin limit cs) {c : Char} (hc : isDigit c = false) :
    RowsWithin limit (c :: cs) :=
  rowsWithin_nil.append_cons hc h

theorem trimChars_isInfix (cs : List Char) : trimChars cs <:+: cs :=
  (trimEndChars_isPrefix _).isInfix.trans (List.dropWhile_suffix isBlank).isInfix

theorem RowsWithin.trimChars (h : RowsWithin limit cs) : RowsWithin limit (trimChars cs) :=
  h.of_isInfix (trimChars_isInfix cs)

/-! ## Words -/

/-- A word is cut out of the text, and the first one of a text that begins with it off its
front. -/
theorem wordChars_isInfix (cs : List Char) :
    (∀ w ∈ wordChars cs, w <:+: cs) ∧
      (startsWord cs = true → ∀ w ∈ (wordChars cs).head?, w <+: cs) := by
  induction cs with
  | nil => exact ⟨by simp [wordChars], by simp [wordChars]⟩
  | cons c rest ih =>
    obtain ⟨hall, hfirst⟩ := ih
    have hrest : ∀ w ∈ wordChars rest, w <:+: c :: rest :=
      fun w hw => (hall w hw).trans (List.suffix_cons c rest).isInfix
    cases wordChars_cases c rest with
    | blank hc said =>
      rw [said]
      exact ⟨hrest, fun hs => by simp [startsWord, hc] at hs⟩
    | joins hc begun w ws after said =>
      have hw : c :: w <+: c :: rest :=
        List.cons_prefix_cons.2 ⟨rfl, hfirst begun w (by simp [after])⟩
      rw [after] at hrest
      rw [said]
      refine ⟨List.forall_mem_cons.2 ⟨hw.isInfix, (List.forall_mem_cons.1 hrest).2⟩, ?_⟩
      rintro - v ⟨⟩
      exact hw
    | alone hc apart said =>
      have hw : [c] <+: c :: rest := List.cons_prefix_cons.2 ⟨rfl, List.nil_prefix⟩
      rw [said]
      refine ⟨List.forall_mem_cons.2 ⟨hw.isInfix, hrest⟩, ?_⟩
      rintro - v ⟨⟩
      exact hw

theorem RowsWithin.words {s w : String} (h : RowsWithin limit s.toList) (hw : w ∈ words s) :
    RowsWithin limit w.toList := by
  obtain ⟨w, hm, rfl⟩ := List.mem_map.1 hw
  rw [String.toList_ofList]
  exact h.of_isInfix ((wordChars_isInfix s.toList).1 w hm)

theorem RowsWithin.intercalate {l : List (List Char)} (h : ∀ w ∈ l, RowsWithin limit w) :
    RowsWithin limit (List.intercalate [' '] l) := by
  induction l with
  | nil => exact rowsWithin_nil
  | cons w rest ih =>
    cases rest with
    | nil =>
      rw [List.intercalate_singleton]
      exact h w List.mem_cons_self
    | cons v rest =>
      rw [List.intercalate_cons_cons, List.append_assoc]
      exact (h w List.mem_cons_self).append_cons (by decide)
        (ih fun u hu => h u (List.mem_cons_of_mem _ hu))

/-- Words written one after another. -/
theorem RowsWithin.unwords {ws : List String} (h : ∀ w ∈ ws, RowsWithin limit w.toList) :
    RowsWithin limit (unwords ws).toList := by
  rw [Text.unwords, String.toList_intercalate]
  apply RowsWithin.intercalate
  intro w hw
  obtain ⟨s, hs, rfl⟩ := List.mem_map.1 hw
  exact h s hs

/-! ## Lower case -/

theorem letterBlocks_digits :
    ∀ b ∈ letterBlocks, ∀ z ∈ digitZeros, b.2 < z ∨ z + 10 ≤ b.1 := by
  decide +kernel

/-- No digit is a letter. -/
theorem caseless_digit : Caseless (· ∈ digitPoints) where
  apart := by
    intro n hn b hb
    obtain ⟨z, hz, h1, h2⟩ := mem_digitPoints.1 hn
    have hout := letterBlocks_digits b hb z hz
    omega
  null := by
    intro h
    obtain ⟨z, hz, hle, -⟩ := mem_digitPoints.1 h
    have hpos : ∀ z ∈ digitZeros, 0 < z := by decide
    exact absurd (hpos z hz) (by omega)

/-- The lower case of a text takes the digits over one by one. -/
theorem lowerFrom_cons (after : Bool) (c : Char) (rest : List Char) :
    ∃ head next, lowerFrom after (c :: rest) = head ++ lowerFrom next rest ∧ head ≠ [] ∧
      (isDigit c = true → head = [c]) ∧ (isDigit c = false → ∀ d ∈ head, isDigit d = false) := by
  simp only [← Bool.not_eq_true, isDigit_iff]
  exact caseless_digit.lowerFrom_cons after c rest

/-- A row of characters of one kind that follows characters of another. -/
theorem infix_of_append_others {p : Char → Bool} {head row : List Char}
    (hh : ∀ d ∈ head, p d = false) (hd : ∀ d ∈ row, p d = true) (h : row <:+: head ++ cs) :
    row <:+: cs := by
  induction head with
  | nil => exact h
  | cons c head ih =>
    rcases List.infix_cons_iff.1 h with hp | hi
    · rcases List.prefix_cons_iff.1 hp with rfl | ⟨t, rfl, -⟩
      · exact List.nil_infix
      · have hc := hd c List.mem_cons_self
        rw [hh c List.mem_cons_self] at hc
        cases hc
    · exact ih (fun d hm => hh d (List.mem_cons_of_mem _ hm)) hi

/-- A row of characters of one kind that characters of another follow. -/
theorem infix_of_others_append {p : Char → Bool} {tail row : List Char}
    (ht : ∀ d ∈ tail, p d = false) (hd : ∀ d ∈ row, p d = true) (h : row <:+: cs ++ tail) :
    row <:+: cs := by
  rw [← List.reverse_infix, List.reverse_append] at h
  exact List.reverse_infix.1 (infix_of_append_others (fun d hm => ht d (List.mem_reverse.1 hm))
    (fun d hm => hd d (List.mem_reverse.1 hm)) h)

/-- A row of digits at the front of the lower case of a text stands at the front of the text. -/
theorem prefix_of_lowerFrom {row : List Char} (hd : ∀ d ∈ row, isDigit d = true) {after : Bool}
    (h : row <+: lowerFrom after cs) : row <+: cs := by
  induction cs generalizing row after with
  | nil => exact h
  | cons c rest ih =>
    obtain ⟨head, next, he, hne, hdigit, hother⟩ := lowerFrom_cons after c rest
    rw [he] at h
    cases hc : isDigit c with
    | true =>
      rw [hdigit hc] at h
      rcases List.prefix_cons_iff.1 h with rfl | ⟨t, rfl, ht⟩
      · exact List.nil_prefix
      · exact List.cons_prefix_cons.2 ⟨rfl, ih (fun d hm => hd d (List.mem_cons_of_mem _ hm)) ht⟩
    | false =>
      obtain ⟨d, ds, rfl⟩ := List.exists_cons_of_ne_nil hne
      rcases List.prefix_cons_iff.1 h with rfl | ⟨t, rfl, -⟩
      · exact List.nil_prefix
      · have hdig := hd d List.mem_cons_self
        rw [hother hc d List.mem_cons_self] at hdig
        cases hdig

/-- A row of digits in the lower case of a text stands in the text. -/
theorem infix_of_lowerFrom {row : List Char} (hd : ∀ d ∈ row, isDigit d = true) {after : Bool}
    (h : row <:+: lowerFrom after cs) : row <:+: cs := by
  induction cs generalizing after with
  | nil => exact h
  | cons c rest ih =>
    obtain ⟨head, next, he, -, hdigit, hother⟩ := lowerFrom_cons after c rest
    cases hc : isDigit c with
    | true =>
      have hfront := he
      rw [hdigit hc] at hfront
      rw [hfront] at h
      rcases List.infix_cons_iff.1 h with hp | hi
      · have hfirst : row <+: lowerFrom after (c :: rest) := by rwa [hfront]
        exact (prefix_of_lowerFrom hd hfirst).isInfix
      · exact (ih hi).trans (List.suffix_cons c rest).isInfix
    | false =>
      rw [he] at h
      exact (ih (infix_of_append_others (hother hc) hd h)).trans
        (List.suffix_cons c rest).isInfix

theorem RowsWithin.lowerChars (h : RowsWithin limit cs) : RowsWithin limit (lowerChars cs) :=
  fun row hrow hd => h row (infix_of_lowerFrom hd hrow) hd

end Restyle.Text
