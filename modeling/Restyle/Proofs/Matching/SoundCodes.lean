import Restyle.Matching.Sound
import Restyle.Proofs.Text.Lowered

/-!
# What a sound code hears

A sound code goes through the letters of a text and remembers the digit of the letter before.  A
letter that is written twice leaves the same digit behind and adds none of its own, and what is no
letter from a to z does not come to be looked at: letter case is put aside character by character,
but for the sigma, which is none of these letters in either form.

* `soundDigits_cons` — what one letter adds, and what it leaves behind.
* `IsSoundCode` — a letter and three digits, zeros last.
* `soundLetters_eq` — the letters of a text, character by character.
* `Interspersed` — a text with digits, spaces and punctuation put in.
* `soundCode_laws` — the form of a code, and the texts that share one.
-/

set_option autoImplicit false

namespace Restyle.Matching

open Restyle.Text

variable {previous : Option Char} {c d : Char} {cs us vs : List Char}

/-! ## Digits -/

/-- Behind a letter, the next one is compared with its digit, whether that was written or not. -/
theorem soundDigits_cons (previous : Option Char) (c : Char) (rest : List Char) :
    soundDigits previous (c :: rest) =
      soundDigits previous [c] ++ soundDigits (soundGroups.lookup c) rest := by
  cases hgroup : soundGroups.lookup c with
  | none => simp [soundDigits, hgroup]
  | some g =>
    by_cases hprevious : previous = some g
    · simp [soundDigits, hgroup, hprevious]
    · simp [soundDigits, hgroup, hprevious]

/-- A letter adds nothing behind itself. -/
theorem soundDigits_repeated (c : Char) (rest : List Char) :
    soundDigits (soundGroups.lookup c) (c :: rest) = soundDigits (soundGroups.lookup c) rest := by
  have hnone : soundDigits (soundGroups.lookup c) [c] = [] := by
    cases hgroup : soundGroups.lookup c with
    | none => simp [soundDigits, hgroup]
    | some g => simp [soundDigits, hgroup]
  rw [soundDigits_cons, hnone, List.nil_append]

/-- A doubled letter, wherever it stands. -/
theorem soundDigits_doubled (previous : Option Char) (us vs : List Char) (c : Char) :
    soundDigits previous (us ++ c :: c :: vs) = soundDigits previous (us ++ c :: vs) := by
  induction us generalizing previous with
  | nil =>
    rw [List.nil_append, List.nil_append, soundDigits_cons, soundDigits_repeated, ← soundDigits_cons]
  | cons u us ih =>
    rw [List.cons_append, List.cons_append, soundDigits_cons, ih, ← soundDigits_cons]

theorem soundCodeChars_doubled (us vs : List Char) (c : Char) :
    soundCodeChars (us ++ c :: c :: vs) = soundCodeChars (us ++ c :: vs) := by
  cases us with
  | nil => simp only [List.nil_append, soundCodeChars, soundDigits_repeated]
  | cons u us => simp only [List.cons_append, soundCodeChars, soundDigits_doubled]

theorem soundGroups_digits : ∀ entry ∈ soundGroups, '1' ≤ entry.2 ∧ entry.2 ≤ '6' := by
  decide

/-- Every digit is the one of a group of consonants. -/
theorem mem_soundDigits (h : d ∈ soundDigits previous cs) : '1' ≤ d ∧ d ≤ '6' := by
  induction cs generalizing previous with
  | nil => cases h
  | cons c rest ih =>
    rw [soundDigits_cons, List.mem_append] at h
    rcases h with h | h
    · have hgroup : soundGroups.lookup c = some d := by
        cases hg : soundGroups.lookup c with
        | none => simp [soundDigits, hg] at h
        | some g =>
          by_cases hprevious : previous = some g
          · simp [soundDigits, hg, hprevious] at h
          · simp [soundDigits, hg, hprevious] at h
            rw [h]
      obtain ⟨before, after, htable, -⟩ := List.lookup_eq_some_iff.1 hgroup
      exact soundGroups_digits (c, d) (by simp [htable])
    · exact ih h

/-! ## The form of a code -/

/-- A sound code is a capital letter and three digits up to six, of which zeros come last. -/
structure IsSoundCode (letter : Char) (digits : List Char) : Prop where
  capital : 'A' ≤ letter ∧ letter ≤ 'Z'
  three : digits.length = 3
  digit : ∀ d ∈ digits, '0' ≤ d ∧ d ≤ '6'
  zerosLast : digits.Pairwise fun d e => d = '0' → e = '0'

theorem capital_toUpper (h : c.isLower = true) : 'A' ≤ c.toUpper ∧ c.toUpper ≤ 'Z' := by
  have hall : ∀ n ∈ List.range 26,
      'A' ≤ (Char.ofNat (n + 97)).toUpper ∧ (Char.ofNat (n + 97)).toUpper ≤ 'Z' := by decide
  obtain ⟨hlow, hhigh⟩ := toNat_of_isLower h
  have hc : Char.ofNat (c.toNat - 97 + 97) = c := by rw [Nat.sub_add_cancel hlow, Char.ofNat_toNat]
  have hletter := hall (c.toNat - 97) (List.mem_range.2 (by omega))
  rwa [hc] at hletter

/-- Digits that are filled up with zeros and cut to three. -/
theorem isSoundCode_filled {digits : List Char} (hc : c.isLower = true)
    (hdigits : ∀ d ∈ digits, '1' ≤ d ∧ d ≤ '6') :
    IsSoundCode c.toUpper ((digits ++ ['0', '0', '0']).take 3) where
  capital := capital_toUpper hc
  three := by simp
  digit := by
    intro d hd
    rcases List.mem_append.1 (List.mem_of_mem_take hd) with hd | hd
    · exact ⟨Char.le_trans (by decide) (hdigits d hd).1, (hdigits d hd).2⟩
    · have hzero : d = '0' := by simpa using hd
      subst hzero
      decide
  zerosLast := by
    refine List.Pairwise.sublist (List.take_sublist 3 _) (List.pairwise_append.2 ⟨?_, ?_, ?_⟩)
    · refine List.pairwise_of_forall_mem_list fun d hd e _ hzero => ?_
      rw [hzero] at hd
      exact absurd (hdigits '0' hd).1 (by decide)
    · decide
    · intro d _ e he _
      simpa using he

theorem isSoundCode_cons {letters : List Char} (h : ∀ l ∈ c :: letters, l.isLower = true) :
    ∃ letter digits, soundCodeChars (c :: letters) = letter :: digits ∧
      IsSoundCode letter digits := by
  have hfirst : c.isLower = true := h c List.mem_cons_self
  have hdigits : ∀ d ∈ soundDigits (soundGroups.lookup c) letters, '1' ≤ d ∧ d ≤ '6' :=
    fun d hd => mem_soundDigits hd
  exact ⟨c.toUpper, _, rfl, isSoundCode_filled hfirst hdigits⟩

/-! ## The letters of a text -/

/-- The letter from a to z that a character is in lower case, if there is one. -/
def lettersOf (c : Char) : List Char := (lowerChar c).filter Char.isLower

/-- **The letters of a text are those of its characters**, whatever stands around them. -/
theorem soundLetters_eq (cs : List Char) : soundLetters cs = cs.flatMap lettersOf := by
  have hfrom (after : Bool) : (lowerFrom after cs).filter Char.isLower = cs.flatMap lettersOf := by
    induction cs generalizing after with
    | nil => rfl
    | cons c rest ih =>
      rw [lowerFrom, List.filter_append, ih, List.flatMap_cons]
      congr 1
      split
      · rename_i hsigma
        have hc : c = 'Σ' := Char.toNat_inj.1 hsigma
        have hnone : lettersOf 'Σ' = [] := by decide +kernel
        rw [hc, hnone]
        split <;> decide
      · rfl
  exact hfrom false

theorem mem_soundLetters (h : c ∈ soundLetters cs) : c.isLower = true := (List.mem_filter.1 h).2

/-- No character is two letters in lower case: the dot above of the capital I with a dot is
none. -/
theorem lettersOf_cases (c : Char) : lettersOf c = [] ∨ ∃ l, lettersOf c = [l] := by
  have hsingle (l : Char) : [l].filter Char.isLower = [] ∨ ∃ m, [l].filter Char.isLower = [m] := by
    cases h : l.isLower with
    | false => exact .inl (by simp [h])
    | true => exact .inr ⟨l, by simp [h]⟩
  cases lowerChar_cases c with
  | ascii small lowered =>
    rw [lettersOf, lowered]
    exact hsingle _
  | dotted point lowered =>
    rw [lettersOf, lowered]
    exact .inr ⟨'i', by decide⟩
  | listed beyond undotted lowered =>
    rw [lettersOf, lowered]
    exact hsingle _

/-- A doubled character is a doubled letter or none. -/
theorem soundCodeChars_soundLetters_doubled (us vs : List Char) (c : Char) :
    soundCodeChars (soundLetters (us ++ c :: c :: vs)) =
      soundCodeChars (soundLetters (us ++ c :: vs)) := by
  simp only [soundLetters_eq, List.flatMap_append, List.flatMap_cons]
  rcases lettersOf_cases c with hnone | ⟨l, hone⟩
  · simp [hnone]
  · simp only [hone, List.singleton_append]
    exact soundCodeChars_doubled _ _ l

/-! ## Characters put in -/

/-- An ASCII character that is no letter: a digit, a space, or a mark of punctuation. -/
def isSign (c : Char) : Bool := c.toNat < 0x80 && !c.isAlpha

/-- A text, and the same text with digits, spaces and punctuation put in anywhere. -/
inductive Interspersed : List Char → List Char → Prop
  | nil : Interspersed [] []
  | keep (c : Char) {cs ds : List Char} : Interspersed cs ds → Interspersed (c :: cs) (c :: ds)
  | insert {c : Char} (sign : isSign c = true) {cs ds : List Char} :
    Interspersed cs ds → Interspersed cs (c :: ds)

theorem lettersOf_sign (h : isSign c = true) : lettersOf c = [] := by
  rw [isSign, Bool.and_eq_true, decide_eq_true_eq, Bool.not_eq_true'] at h
  obtain ⟨hascii, halpha⟩ := h
  have hcases : (c.isUpper || c.isLower) = false := halpha
  obtain ⟨hupper, hlower⟩ := Bool.or_eq_false_iff.1 hcases
  have hkept : c.toLower = c := by
    have hbounds : ¬('A'.val ≤ c.val ∧ c.val ≤ 'Z'.val) := of_decide_eq_false hupper
    unfold Char.toLower
    exact dif_neg hbounds
  rw [lettersOf, lowerChar, if_pos hascii, hkept]
  simp [hlower]

theorem Interspersed.soundLetters_eq {cs ds : List Char} (h : Interspersed cs ds) :
    soundLetters ds = soundLetters cs := by
  simp only [Matching.soundLetters_eq]
  induction h with
  | nil => rfl
  | keep c _ ih => rw [List.flatMap_cons, List.flatMap_cons, ih]
  | insert hsign _ ih => rw [List.flatMap_cons, lettersOf_sign hsign, List.nil_append, ih]

/-! ## Codes of texts -/

theorem soundCodeChars_eq_nil_iff : soundCodeChars cs = [] ↔ cs = [] := by
  cases cs with
  | nil => simp [soundCodeChars]
  | cons c rest => simp [soundCodeChars]

theorem soundCode_eq_empty_iff (s : String) :
    soundCode s = "" ↔ ∀ c ∈ (lower s).toList, ¬('a' ≤ c ∧ c ≤ 'z') := by
  rw [soundCode, String.ofList_eq_empty_iff, soundCodeChars_eq_nil_iff, soundLetters,
    List.filter_eq_nil_iff, lower, String.toList_ofList]
  simp

/-- **A text without letters has no sound code, and any other one a letter and three digits, zeros
last.**  Writing a character twice does not change the code, and neither does anything that is put
in and is no letter. -/
theorem soundCode_laws (s u v : String) (c : Char) :
    (soundCode s = "" ↔ ∀ c ∈ (lower s).toList, ¬('a' ≤ c ∧ c ≤ 'z')) ∧
      (soundCode s = "" ∨ ∃ letter digits,
        (soundCode s).toList = letter :: digits ∧ IsSoundCode letter digits) ∧
      soundCode ((u.push c).push c ++ v) = soundCode (u.push c ++ v) ∧
      ∀ t : String, Interspersed s.toList t.toList → soundCode t = soundCode s := by
  refine ⟨soundCode_eq_empty_iff s, ?_, ?_, ?_⟩
  · have hletters (l : Char) (hl : l ∈ soundLetters s.toList) : l.isLower = true :=
      mem_soundLetters hl
    rw [soundCode, String.toList_ofList]
    cases hs : soundLetters s.toList with
    | nil => exact .inl rfl
    | cons l letters =>
      rw [hs] at hletters
      exact .inr (isSoundCode_cons hletters)
  · simp only [soundCode, String.toList_append, String.toList_push, List.append_assoc,
      List.cons_append, List.nil_append]
    rw [soundCodeChars_soundLetters_doubled]
  · intro t ht
    rw [soundCode, soundCode, ht.soundLetters_eq]

/-- "Robert" is heard through the characters put in between its letters. -/
theorem soundCode_laws_robert :
    Interspersed "Robert".toList "R-o 8b.ert!".toList ∧
      soundCode "R-o 8b.ert!" = soundCode "Robert" := by
  have hput : Interspersed "Robert".toList "R-o 8b.ert!".toList :=
    .keep _ (.insert (by decide) (.keep _ (.insert (by decide) (.insert (by decide) (.keep _
      (.insert (by decide) (.keep _ (.keep _ (.keep _ (.insert (by decide) .nil))))))))))
  exact ⟨hput, (soundCode_laws "Robert" "" "" 'a').2.2.2 _ hput⟩

end Restyle.Matching
