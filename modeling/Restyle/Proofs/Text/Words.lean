import Mathlib.Data.List.DropRight
import Restyle.Proofs.Text.Lowered

/-!
# Words and the white space between them

The words of a text do not depend on how they are spaced, and letter case is put aside word by
word.

* `wordChars_cases` — the words of a text and of what follows its first character.
* `wordChars_append_gap` — the words on both sides of white space.
* `words_unwords`, `words_unwords_of_isWord` — words that are written with single spaces are read
  back.
* `wordChars_map_foldChar`, `length_wordChars_lowerFrom` — folding and lowering keep words apart.
-/

set_option autoImplicit false

namespace Restyle.Text

variable {cs ds gap w : List Char} {c : Char}

/-! ## Gaps -/

theorem wordChars_cons_blank (hc : isBlank c = true) (cs : List Char) :
    wordChars (c :: cs) = wordChars cs := by
  rw [wordChars, if_pos hc]

/-- White space before a text. -/
theorem wordChars_gap_append (hg : ∀ c ∈ gap, isBlank c = true) (cs : List Char) :
    wordChars (gap ++ cs) = wordChars cs := by
  induction gap with
  | nil => rfl
  | cons b gap ih =>
    rw [List.cons_append, wordChars_cons_blank (hg b List.mem_cons_self)]
    exact ih fun c hc => hg c (List.mem_cons_of_mem _ hc)

theorem wordChars_ne_nil (h : startsWord cs = true) : wordChars cs ≠ [] := by
  cases cs with
  | nil => cases h
  | cons c rest =>
    rw [wordChars, if_neg (by simpa [startsWord] using h)]
    split <;> exact List.cons_ne_nil _ _

/-- How the words of a text come from those of what follows its first character. -/
inductive WordCase (c : Char) (rest : List Char) : Prop
  | blank (hc : isBlank c = true) (said : wordChars (c :: rest) = wordChars rest)
  /-- The character stands before the first letter of a word. -/
  | joins (hc : isBlank c = false) (begun : startsWord rest = true) (w : List Char)
    (ws : List (List Char)) (after : wordChars rest = w :: ws)
    (said : wordChars (c :: rest) = (c :: w) :: ws)
  /-- The character is a word of its own. -/
  | alone (hc : isBlank c = false) (apart : startsWord rest = false)
    (said : wordChars (c :: rest) = [c] :: wordChars rest)

theorem wordChars_cases (c : Char) (rest : List Char) : WordCase c rest := by
  cases hc : isBlank c with
  | true => exact .blank hc (wordChars_cons_blank hc rest)
  | false =>
    have hcons : ¬isBlank c = true := by simp [hc]
    cases hs : startsWord rest with
    | true =>
      obtain ⟨w, ws, hw⟩ := List.exists_cons_of_ne_nil (wordChars_ne_nil hs)
      exact .joins hc hs w ws hw (by rw [wordChars, if_neg hcons, hs, hw])
    | false => exact .alone hc hs (by rw [wordChars, if_neg hcons, hs])

theorem startsWord_append_cons (hc : isBlank c = true) (cs ds : List Char) :
    startsWord (cs ++ c :: ds) = startsWord cs := by
  cases cs with
  | nil => simp [startsWord, hc]
  | cons d rest => rfl

/-- The words on both sides of one character of white space. -/
theorem wordChars_append_cons (hc : isBlank c = true) (cs ds : List Char) :
    wordChars (cs ++ c :: ds) = wordChars cs ++ wordChars ds := by
  induction cs with
  | nil => exact wordChars_cons_blank hc ds
  | cons d rest ih =>
    rw [List.cons_append, wordChars, wordChars, startsWord_append_cons hc, ih]
    split
    · rfl
    · cases hs : startsWord rest with
      | false => rfl
      | true =>
        obtain ⟨w, ws, hw⟩ := List.exists_cons_of_ne_nil (wordChars_ne_nil hs)
        rw [hw]
        rfl

/-- The words on both sides of white space. -/
theorem wordChars_append_gap (hg : ∀ c ∈ gap, isBlank c = true) (hne : gap ≠ [])
    (cs ds : List Char) : wordChars (cs ++ gap ++ ds) = wordChars cs ++ wordChars ds := by
  obtain ⟨b, rest, rfl⟩ := List.exists_cons_of_ne_nil hne
  obtain ⟨hb, hrest⟩ := List.forall_mem_cons.1 hg
  rw [List.append_assoc, List.cons_append, wordChars_append_cons hb, wordChars_gap_append hrest]

/-- White space after a text. -/
theorem wordChars_append_blank (hg : ∀ c ∈ gap, isBlank c = true) (cs : List Char) :
    wordChars (cs ++ gap) = wordChars cs := by
  cases gap with
  | nil => rw [List.append_nil]
  | cons b rest =>
    have h := wordChars_append_gap hg (List.cons_ne_nil b rest) cs []
    rwa [List.append_nil, wordChars, List.append_nil] at h

theorem wordChars_dropWhile (cs : List Char) : wordChars (cs.dropWhile isBlank) = wordChars cs := by
  conv_rhs => rw [← List.takeWhile_append_dropWhile (p := isBlank) (l := cs)]
  exact (wordChars_gap_append (fun c => List.mem_takeWhile_imp) _).symm

theorem wordChars_trimChars (cs : List Char) : wordChars (trimChars cs) = wordChars cs := by
  obtain ⟨front, back, hfront, hback, hcs⟩ := exists_gaps cs
  conv_rhs => rw [hcs]
  rw [List.append_assoc, wordChars_gap_append hfront, wordChars_append_blank hback]

theorem words_trim (s : String) : words (trim s) = words s := by
  rw [words, trim, String.toList_ofList, wordChars_trimChars, words]

/-! ## Words -/

/-- A word: at least one character, and no white space. -/
structure IsWord (w : List Char) : Prop where
  nonempty : w ≠ []
  solid : ∀ c ∈ w, isBlank c = false

theorem IsWord.trimmed (h : IsWord w) : Trimmed w where
  head c hc := h.solid c (List.mem_of_mem_head? hc)
  last c hc := h.solid c (List.mem_of_mem_getLast? hc)

theorem wordChars_of_isWord (h : IsWord w) : wordChars w = [w] := by
  obtain ⟨hne, hsolid⟩ := h
  induction w with
  | nil => exact absurd rfl hne
  | cons c rest ih =>
    obtain ⟨hc, hrest⟩ := List.forall_mem_cons.1 hsolid
    rw [wordChars, if_neg (by simp [hc])]
    cases rest with
    | nil => rfl
    | cons d rest =>
      have hd : startsWord (d :: rest) = true := by
        simp [startsWord, hrest d List.mem_cons_self]
      rw [ih (List.cons_ne_nil d rest) hrest, hd]

theorem isWord_of_mem_wordChars (h : w ∈ wordChars cs) : IsWord w := by
  induction cs generalizing w with
  | nil => cases h
  | cons c rest ih =>
    cases wordChars_cases c rest with
    | blank hc said =>
      rw [said] at h
      exact ih h
    | joins hc begun v ws after said =>
      rw [said] at h
      rw [after] at ih
      rcases List.mem_cons.1 h with rfl | h
      · exact ⟨List.cons_ne_nil c v, List.forall_mem_cons.2 ⟨hc, (ih List.mem_cons_self).solid⟩⟩
      · exact ih (List.mem_cons_of_mem v h)
    | alone hc apart said =>
      rw [said] at h
      rcases List.mem_cons.1 h with rfl | h
      · exact ⟨List.cons_ne_nil c [], List.forall_mem_singleton.2 hc⟩
      · exact ih h

/-- A character that is no white space stands in a word. -/
theorem exists_mem_wordChars (hc : isBlank c = false) (h : c ∈ cs) : ∃ w ∈ wordChars cs, c ∈ w := by
  induction cs with
  | nil => cases h
  | cons d rest ih =>
    cases wordChars_cases d rest with
    | blank hd said =>
      rw [said]
      rcases List.mem_cons.1 h with rfl | h
      · rw [hc] at hd
        cases hd
      · exact ih h
    | joins hd begun v ws after said =>
      rw [said]
      rcases List.mem_cons.1 h with rfl | h
      · exact ⟨_, List.mem_cons_self, List.mem_cons_self⟩
      · obtain ⟨w, hw, hcw⟩ := ih h
        rw [after] at hw
        rcases List.mem_cons.1 hw with rfl | hw
        · exact ⟨_, List.mem_cons_self, List.mem_cons_of_mem d hcw⟩
        · exact ⟨w, List.mem_cons_of_mem _ hw, hcw⟩
    | alone hd apart said =>
      rw [said]
      rcases List.mem_cons.1 h with rfl | h
      · exact ⟨_, List.mem_cons_self, List.mem_cons_self⟩
      · obtain ⟨w, hw, hcw⟩ := ih h
        exact ⟨w, List.mem_cons_of_mem _ hw, hcw⟩

theorem wordChars_intercalate (l : List (List Char)) :
    wordChars (List.intercalate [' '] l) = l.flatMap wordChars := by
  induction l with
  | nil => rfl
  | cons cs rest ih =>
    cases rest with
    | nil => rw [List.intercalate_singleton, List.flatMap_singleton]
    | cons ds rest =>
      rw [List.intercalate_cons_cons, wordChars_append_gap (by decide) (by decide), ih]
      rfl

/-- The words of texts that are written with one space between two of them. -/
theorem words_unwords (texts : List String) : words (unwords texts) = texts.flatMap words := by
  rw [words, unwords, String.toList_intercalate]
  have hspace : (" " : String).toList = [' '] := rfl
  rw [hspace, wordChars_intercalate, List.flatMap_map, List.map_flatMap]
  rfl

theorem mem_intercalate {l : List (List Char)} (h : c ∈ List.intercalate [' '] l) :
    c = ' ' ∨ ∃ cs ∈ l, c ∈ cs := by
  induction l with
  | nil => cases h
  | cons cs rest ih =>
    cases rest with
    | nil =>
      rw [List.intercalate_singleton] at h
      exact .inr ⟨cs, List.mem_cons_self, h⟩
    | cons ds rest =>
      rw [List.intercalate_cons_cons, List.append_assoc] at h
      rcases List.mem_append.1 h with h | h
      · exact .inr ⟨cs, List.mem_cons_self, h⟩
      · rcases List.mem_append.1 h with h | h
        · exact .inl (List.mem_singleton.1 h)
        · rcases ih h with h | ⟨es, he, hc⟩
          · exact .inl h
          · exact .inr ⟨es, List.mem_cons_of_mem cs he, hc⟩

/-- A character of such a text is a space or stands in one of the texts. -/
theorem mem_unwords {texts : List String} (h : c ∈ (unwords texts).toList) :
    c = ' ' ∨ ∃ t ∈ texts, c ∈ t.toList := by
  rw [unwords, String.toList_intercalate] at h
  rcases mem_intercalate h with h | ⟨cs, hcs, hc⟩
  · exact .inl h
  · obtain ⟨t, ht, rfl⟩ := List.mem_map.1 hcs
    exact .inr ⟨t, ht, hc⟩

theorem words_of_isWord {s : String} (h : IsWord s.toList) : words s = [s] := by
  rw [words, wordChars_of_isWord h, List.map_singleton, String.ofList_toList]

/-- Words that are written with single spaces are read back. -/
theorem words_unwords_of_isWord {ws : List String} (h : ∀ w ∈ ws, IsWord w.toList) :
    words (unwords ws) = ws := by
  rw [words_unwords]
  induction ws with
  | nil => rfl
  | cons w rest ih =>
    obtain ⟨hw, hrest⟩ := List.forall_mem_cons.1 h
    rw [List.flatMap_cons, words_of_isWord hw, ih hrest, List.singleton_append]

/-- Words that are written with single spaces have no white space around them. -/
theorem trimmed_intercalate {l : List (List Char)} (h : ∀ w ∈ l, IsWord w) :
    Trimmed (List.intercalate [' '] l) := by
  induction l with
  | nil => exact ⟨nofun, nofun⟩
  | cons w rest ih =>
    obtain ⟨hw, hrest⟩ := List.forall_mem_cons.1 h
    cases rest with
    | nil =>
      rw [List.intercalate_singleton]
      exact hw.trimmed
    | cons v rest =>
      have hne : List.intercalate [' '] (v :: rest) ≠ [] := by
        intro hnil
        have hwords := wordChars_intercalate (v :: rest)
        rw [hnil, List.flatMap_cons, wordChars_of_isWord (hrest v List.mem_cons_self)] at hwords
        cases hwords
      rw [List.intercalate_cons_cons, List.append_assoc]
      refine ⟨fun c hc => hw.trimmed.head c ?_, fun c hc => (ih hrest).last c ?_⟩
      · rwa [List.head?_append_of_ne_nil _ hw.nonempty] at hc
      · rwa [List.getLast?_append_of_ne_nil _ (by simp), List.getLast?_append_of_ne_nil _ hne] at hc

theorem trimmed_unwords {ws : List String} (h : ∀ w ∈ ws, IsWord w.toList) :
    Trimmed (unwords ws).toList := by
  rw [unwords, String.toList_intercalate]
  exact trimmed_intercalate (List.forall_mem_map.2 h)

/-! ## Letter case -/

theorem wordChars_map {f : Char → Char} (hf : ∀ c, isBlank (f c) = isBlank c) (cs : List Char) :
    wordChars (cs.map f) = (wordChars cs).map (List.map f) := by
  induction cs with
  | nil => rfl
  | cons c rest ih =>
    have hstart : startsWord (rest.map f) = startsWord rest := by
      cases rest with
      | nil => rfl
      | cons d rest => simp [startsWord, hf]
    rw [List.map_cons, wordChars, wordChars, hf, hstart, ih]
    split
    · rfl
    · cases startsWord rest with
      | false => rfl
      | true => cases wordChars rest <;> rfl

/-- The four characters beyond ASCII that are folded are no white space, nor are their letters. -/
theorem isBlank_foldChar (c : Char) : isBlank (foldChar c) = isBlank c := by
  have hfour (hm : c.toNat ∈ [0x212A, 0x17F, 0x130, 0x131]) : isBlank c = false := by
    have hnone : ∀ n ∈ [0x212A, 0x17F, 0x130, 0x131], n ∉ blankPoints := by decide
    rw [← Bool.not_eq_true, isBlank_iff]
    exact hnone _ hm
  cases foldChar_cases c with
  | ascii small folded =>
    rw [folded, Bool.eq_iff_iff, isBlank_iff, isBlank_iff]
    by_cases hc : c.toNat ∈ blankPoints
    · rw [caseless_blank.toLower_of_mem hc]
    · exact iff_of_false (caseless_blank.toLower_of_not_mem hc) hc
  | kelvin point folded =>
    rw [folded, hfour (by simp [point])]
    decide
  | longS point folded =>
    rw [folded, hfour (by simp [point])]
    decide
  | smallI point folded =>
    rw [folded, hfour (by rcases point with point | point <;> simp [point])]
    decide
  | kept beyond folded => rw [folded]

theorem wordChars_map_foldChar (cs : List Char) :
    wordChars (cs.map foldChar) = (wordChars cs).map (List.map foldChar) :=
  wordChars_map isBlank_foldChar cs

theorem IsWord.map_foldChar (h : IsWord w) : IsWord (w.map foldChar) where
  nonempty := by simpa using h.nonempty
  solid := by
    refine List.forall_mem_map.2 fun c hc => ?_
    rw [isBlank_foldChar]
    exact h.solid c hc

theorem IsWord.lowerFrom (h : IsWord w) (after : Bool) : IsWord (lowerFrom after w) where
  nonempty := by
    obtain ⟨c, rest, rfl⟩ := List.exists_cons_of_ne_nil h.nonempty
    obtain ⟨head, next, he, hne, -⟩ := caseless_blank.lowerFrom_cons after c rest
    rw [he]
    exact List.append_ne_nil_of_left_ne_nil hne _
  solid := not_blank_lowerFrom h.solid after

theorem isWord_of_mem_words {s word : String} (h : word ∈ words s) : IsWord word.toList := by
  obtain ⟨w, hw, rfl⟩ := List.mem_map.1 h
  rw [String.toList_ofList]
  exact isWord_of_mem_wordChars hw

theorem IsWord.trim_eq {s : String} (h : IsWord s.toList) : trim s = s := by
  rw [trim, h.trimmed.trimChars_eq, String.ofList_toList]

theorem IsWord.lower {s : String} (h : IsWord s.toList) : IsWord (lower s).toList := by
  rw [Text.lower, String.toList_ofList]
  exact h.lowerFrom false

theorem IsWord.fold {s : String} (h : IsWord s.toList) : IsWord (fold s).toList := by
  rw [Text.fold, String.toList_ofList]
  exact h.map_foldChar

theorem startsWord_lowerFrom (after : Bool) (cs : List Char) :
    startsWord (lowerFrom after cs) = startsWord cs := by
  cases cs with
  | nil => rfl
  | cons c rest =>
    obtain ⟨head, next, he, hne, hkept, hother⟩ := caseless_blank.lowerFrom_cons after c rest
    rw [← isBlank_iff] at hkept hother
    obtain ⟨d, ds, rfl⟩ := List.exists_cons_of_ne_nil hne
    rw [he, List.cons_append, startsWord, startsWord]
    cases hc : isBlank c with
    | true =>
      obtain ⟨rfl, -⟩ := List.cons_eq_cons.1 (hkept hc)
      rw [hc]
    | false =>
      have hd := hother (by simp [hc]) d List.mem_cons_self
      rw [← isBlank_iff, Bool.not_eq_true] at hd
      rw [hd]

/-- Characters of a word put before a text begin a word, or lengthen the first one. -/
theorem length_wordChars_append (h : IsWord w) (cs : List Char) :
    (wordChars (w ++ cs)).length =
      (wordChars cs).length + if startsWord cs = true then 0 else 1 := by
  obtain ⟨hne, hsolid⟩ := h
  induction w with
  | nil => exact absurd rfl hne
  | cons c rest ih =>
    obtain ⟨hc, hrest⟩ := List.forall_mem_cons.1 hsolid
    rw [List.cons_append, wordChars, if_neg (by simp [hc])]
    cases rest with
    | nil =>
      rw [List.nil_append]
      cases hs : startsWord cs with
      | false => simp
      | true =>
        obtain ⟨v, vs, hv⟩ := List.exists_cons_of_ne_nil (wordChars_ne_nil hs)
        simp [hv]
    | cons d rest =>
      have hd : startsWord (d :: rest ++ cs) = true := by
        simp [startsWord, hrest d List.mem_cons_self]
      obtain ⟨v, vs, hv⟩ := List.exists_cons_of_ne_nil (wordChars_ne_nil hd)
      rw [← ih (List.cons_ne_nil d rest) hrest, hd, hv]
      rfl

/-- Lowering a text leaves it as many words as it has. -/
theorem length_wordChars_lowerFrom (after : Bool) (cs : List Char) :
    (wordChars (lowerFrom after cs)).length = (wordChars cs).length := by
  induction cs generalizing after with
  | nil => rfl
  | cons c rest ih =>
    obtain ⟨head, next, he, hne, hkept, hother⟩ := caseless_blank.lowerFrom_cons after c rest
    rw [← isBlank_iff] at hkept hother
    rw [he]
    cases hc : isBlank c with
    | true =>
      rw [hkept hc, List.singleton_append, wordChars_cons_blank hc, wordChars_cons_blank hc, ih]
    | false =>
      have hhead : IsWord head := by
        refine ⟨hne, fun d hd => ?_⟩
        have hd' := hother (by simp [hc]) d hd
        rwa [← isBlank_iff, Bool.not_eq_true] at hd'
      have hword : IsWord [c] := ⟨List.cons_ne_nil c [], List.forall_mem_singleton.2 hc⟩
      rw [length_wordChars_append hhead, ih, startsWord_lowerFrom,
        ← length_wordChars_append hword]
      rfl

/-- The form in which tables are searched has as many words as the text. -/
theorem length_words_trim_lower (s : String) :
    (words (trim (lower s))).length = (words s).length := by
  rw [words_trim, words, lower, String.toList_ofList, List.length_map, lowerChars,
    length_wordChars_lowerFrom, words, List.length_map]

end Restyle.Text
