import Restyle.Proofs.Text.Trim
import Restyle.Text.Case

/-!
# What lowering leaves alone

Only letters are changed when a text is put in lower case, and only into letters.  So a class of
characters without letters is kept character by character: digits, white space, or a sign.

* `toLower_cases`, `mapByRuns_cases`, `lowerChar_cases`, `foldChar_cases` — what can come of one
  character.
* `Caseless` — a class of code points without letters.
* `Caseless.lowerFrom_cons` — the lower case of a text, character by character.
* `Caseless.mem_lowerFrom` — the lower case of a text has the same characters of the class.
* `fold_eq_lower` — a text that is ASCII in lower case is folded to the same.
-/

set_option autoImplicit false

namespace Restyle.Text

/-- A statement about the characters of a text is decided by going through them.  It is declared
here to come before an instance that goes through every character there is. -/
instance decidableForallMemChar (cs : List Char) (p : Char → Prop) [DecidablePred p] :
    Decidable (∀ c ∈ cs, p c) :=
  List.decidableBAll p cs

/-! ## One character -/

/-- A capital ASCII letter becomes small, and nothing else is changed. -/
theorem toLower_cases (c : Char) :
    (0x41 ≤ c.toNat ∧ c.toNat ≤ 0x5A ∧ c.toLower.toNat = c.toNat + 0x20) ∨
      ((c.toNat < 0x41 ∨ 0x5A < c.toNat) ∧ c.toLower = c) := by
  unfold Char.toLower
  split
  · rename_i capital
    have hl : 65 ≤ c.val.toNat := UInt32.le_iff_toNat_le.1 capital.1
    have hh : c.val.toNat ≤ 90 := UInt32.le_iff_toNat_le.1 capital.2
    have hshift : ('a'.val - 'A'.val).toNat = 32 := by decide
    refine .inl ⟨hl, hh, ?_⟩
    simp only [Char.toNat, UInt32.toNat_add, hshift]
    omega
  · rename_i other
    refine .inr ⟨?_, rfl⟩
    by_contra hin
    have hin' : 65 ≤ c.toNat ∧ c.toNat ≤ 90 := by omega
    exact other ⟨UInt32.le_iff_toNat_le.2 hin'.1, UInt32.le_iff_toNat_le.2 hin'.2⟩

theorem toLower_of_small {c : Char} (h : c.toNat < 0x41 ∨ 0x5A < c.toNat) : c.toLower = c := by
  rcases toLower_cases c with ⟨hl, hh, -⟩ | ⟨-, he⟩
  · omega
  · exact he

theorem covers_iff {r : CaseRun} {n : Nat} :
    r.covers n = true ↔ r.first ≤ n ∧ n ≤ r.last ∧ (n - r.first) % r.stride = 0 := by
  simp [CaseRun.covers, and_assoc]

/-- A code point is taken along by a run that covers it, or left alone. -/
theorem mapByRuns_cases (runs : List CaseRun) (n : Nat) :
    (∃ r ∈ runs, r.covers n = true ∧ mapByRuns runs n = ((n : Int) + r.offset).toNat) ∨
      ((∀ r ∈ runs, r.covers n = false) ∧ mapByRuns runs n = n) := by
  unfold mapByRuns
  cases hf : runs.find? (·.covers n) with
  | some r =>
    have covered := List.find?_some hf
    exact .inl ⟨r, List.mem_of_find?_eq_some hf, covered, rfl⟩
  | none => exact .inr ⟨fun r hr => by simpa using List.find?_eq_none.1 hf r hr, rfl⟩

/-- What can come of lowering one character. -/
inductive LowerCase (c : Char) : Prop
  | ascii (small : c.toNat < 0x80) (lowered : lowerChar c = [c.toLower])
  /-- The capital I with a dot becomes two characters. -/
  | dotted (point : c.toNat = 0x130) (lowered : lowerChar c = ['i', Char.ofNat 0x307])
  | listed (beyond : 0x80 ≤ c.toNat) (undotted : c.toNat ≠ 0x130)
    (lowered : lowerChar c = [Char.ofNat (mapByRuns lowerRuns c.toNat)])

theorem lowerChar_cases (c : Char) : LowerCase c := by
  by_cases small : c.toNat < 0x80
  · exact .ascii small (if_pos small)
  · by_cases point : c.toNat = 0x130
    · exact .dotted point ((if_neg small).trans (if_pos point))
    · exact .listed (Nat.le_of_not_lt small) point ((if_neg small).trans (if_neg point))

/-- What can come of folding one character. -/
inductive FoldCase (c : Char) : Prop
  | ascii (small : c.toNat < 0x80) (folded : foldChar c = c.toLower)
  | kelvin (point : c.toNat = 0x212A) (folded : foldChar c = 'k')
  | longS (point : c.toNat = 0x17F) (folded : foldChar c = 's')
  | smallI (point : c.toNat = 0x130 ∨ c.toNat = 0x131) (folded : foldChar c = 'i')
  | kept (beyond : 0x80 ≤ c.toNat) (folded : foldChar c = c)

theorem foldChar_cases (c : Char) : FoldCase c := by
  by_cases small : c.toNat < 0x80
  · exact .ascii small (by simp [foldChar, small])
  · by_cases kelvin : c.toNat = 0x212A
    · exact .kelvin kelvin (by simp [foldChar, kelvin])
    · by_cases longS : c.toNat = 0x17F
      · exact .longS longS (by simp [foldChar, longS])
      · by_cases smallI : c.toNat = 0x130 ∨ c.toNat = 0x131
        · exact .smallI smallI (by simp [foldChar, small, kelvin, longS, smallI])
        · exact .kept (Nat.le_of_not_lt small) (by simp [foldChar, small, kelvin, longS, smallI])

/-! ## Letters -/

/-- Stretches of code points, first and last, that hold every letter with a lower case. -/
def letterBlocks : List (Nat × Nat) :=
  [(0x41, 0x7A), (0xC0, 0x586), (0x10A0, 0x13FD), (0x1C90, 0x1FFC), (0x2126, 0x2D2D),
    (0xA640, 0xA7F6), (0xAB53, 0xABBF), (0xFF21, 0x1044F), (0x104B0, 0x10CF2),
    (0x118A0, 0x118DF), (0x16E40, 0x16E7F), (0x1E900, 0x1E943)]

/-- A run of the table stays within one block, and so does what it maps to. -/
theorem lowerRuns_blocks : ∀ r ∈ lowerRuns,
    (∃ b ∈ letterBlocks, b.1 ≤ r.first ∧ r.last ≤ b.2) ∧
      ∃ b ∈ letterBlocks, (b.1 : Int) ≤ r.first + r.offset ∧ r.last + r.offset ≤ b.2 := by
  decide +kernel

/-- The small ASCII letters. -/
theorem toNat_of_isLower {c : Char} (h : c.isLower = true) : 0x61 ≤ c.toNat ∧ c.toNat ≤ 0x7A := by
  have hbounds : (decide ('a'.val ≤ c.val) && decide (c.val ≤ 'z'.val)) = true := h
  simpa [UInt32.le_iff_toNat_le] using hbounds

/-! ## Classes without letters -/

/-- A class of code points that has no letter, nor the null character, which stands for what is
no code point. -/
structure Caseless (P : Nat → Prop) : Prop where
  apart : ∀ n, P n → ∀ b ∈ letterBlocks, n < b.1 ∨ b.2 < n
  null : ¬P 0

namespace Caseless

variable {P : Nat → Prop}

theorem of_block (h : Caseless P) {b : Nat × Nat} (hb : b ∈ letterBlocks) {n : Nat}
    (hl : b.1 ≤ n) (hh : n ≤ b.2) : ¬P n := by
  intro hp
  have hout := h.apart n hp b hb
  omega

/-- The block of the first Latin letters. -/
theorem not_ascii_letter (h : Caseless P) {n : Nat} (hl : 0x41 ≤ n) (hh : n ≤ 0x7A) : ¬P n :=
  h.of_block (b := (0x41, 0x7A)) (by decide) hl hh

/-- The block of the letters that are treated apart. -/
theorem not_treated_apart (h : Caseless P) {n : Nat} (hl : 0xC0 ≤ n) (hh : n ≤ 0x586) : ¬P n :=
  h.of_block (b := (0xC0, 0x586)) (by decide) hl hh

theorem mapByRuns_of_mem (h : Caseless P) {n : Nat} (hn : P n) : mapByRuns lowerRuns n = n := by
  rcases mapByRuns_cases lowerRuns n with ⟨r, hr, hc, -⟩ | ⟨-, he⟩
  · obtain ⟨hl, hh, -⟩ := covers_iff.1 hc
    obtain ⟨⟨b, hb, hfirst, hlast⟩, -⟩ := lowerRuns_blocks r hr
    exact absurd hn (h.of_block hb (hfirst.trans hl) (hh.trans hlast))
  · exact he

theorem mapByRuns_of_not_mem (h : Caseless P) {n : Nat} (hn : ¬P n) :
    ¬P (mapByRuns lowerRuns n) := by
  rcases mapByRuns_cases lowerRuns n with ⟨r, hr, hc, he⟩ | ⟨-, he⟩
  · obtain ⟨hl, hh, -⟩ := covers_iff.1 hc
    obtain ⟨-, b, hb, hfirst, hlast⟩ := lowerRuns_blocks r hr
    rw [he]
    exact h.of_block hb (by omega) (by omega)
  · rwa [he]

theorem toNat_ofNat (h : Caseless P) {n : Nat} (hn : ¬P n) : ¬P (Char.ofNat n).toNat := by
  by_cases hv : n.isValidChar
  · rw [Char.ofNat, dif_pos hv]
    exact hn
  · rw [Char.ofNat, dif_neg hv]
    exact h.null

theorem toLower_of_mem (h : Caseless P) {c : Char} (hc : P c.toNat) : c.toLower = c := by
  rcases toLower_cases c with ⟨hl, hh, -⟩ | ⟨-, he⟩
  · exact absurd hc (h.not_ascii_letter hl (by omega))
  · exact he

theorem toLower_of_not_mem (h : Caseless P) {c : Char} (hc : ¬P c.toNat) :
    ¬P c.toLower.toNat := by
  rcases toLower_cases c with ⟨hl, hh, he⟩ | ⟨-, he⟩
  · rw [he]
    exact h.not_ascii_letter (by omega) (by omega)
  · rwa [he]

/-- The four characters beyond ASCII that are folded are letters. -/
theorem foldChar_of_mem (h : Caseless P) {c : Char} (hc : P c.toNat) : foldChar c = c := by
  cases foldChar_cases c with
  | ascii small folded => rw [folded, h.toLower_of_mem hc]
  | kelvin point folded =>
    exact absurd hc (h.of_block (b := (0x2126, 0x2D2D)) (by decide) (by omega) (by omega))
  | longS point folded => exact absurd hc (h.not_treated_apart (by omega) (by omega))
  | smallI point folded => exact absurd hc (h.not_treated_apart (by omega) (by omega))
  | kept beyond folded => exact folded

theorem isLower_of_mem (h : Caseless P) {c : Char} (hc : P c.toNat) : c.isLower = false := by
  by_contra hlower
  rw [Bool.not_eq_false] at hlower
  obtain ⟨hl, hh⟩ := toNat_of_isLower hlower
  exact h.not_ascii_letter (by omega) hh hc

/-- Two classes without letters make one. -/
theorem or {Q : Nat → Prop} (h : Caseless P) (h' : Caseless Q) :
    Caseless fun n => P n ∨ Q n where
  apart n hn := hn.elim (h.apart n) (h'.apart n)
  null := not_or.2 ⟨h.null, h'.null⟩

/-! ## Texts -/

theorem lowerChar_of_mem (h : Caseless P) {c : Char} (hc : P c.toNat) : lowerChar c = [c] := by
  cases lowerChar_cases c with
  | ascii small lowered => rw [lowered, h.toLower_of_mem hc]
  | dotted point lowered => exact absurd hc (h.not_treated_apart (by omega) (by omega))
  | listed beyond undotted lowered => rw [lowered, h.mapByRuns_of_mem hc, Char.ofNat_toNat]

theorem lowerChar_of_not_mem (h : Caseless P) {c : Char} (hc : ¬P c.toNat) :
    ∀ d ∈ lowerChar c, ¬P d.toNat := by
  cases lowerChar_cases c with
  | ascii small lowered =>
    rw [lowered]
    exact List.forall_mem_singleton.2 (h.toLower_of_not_mem hc)
  | dotted point lowered =>
    rw [lowered, List.forall_mem_cons, List.forall_mem_singleton]
    exact ⟨h.not_ascii_letter (by decide) (by decide), h.not_treated_apart (by decide) (by decide)⟩
  | listed beyond undotted lowered =>
    rw [lowered]
    exact List.forall_mem_singleton.2 (h.toNat_ofNat (h.mapByRuns_of_not_mem hc))

theorem lowerChar_ne_nil (c : Char) : lowerChar c ≠ [] := by
  cases lowerChar_cases c with
  | ascii small lowered => simp [lowered]
  | dotted point lowered => simp [lowered]
  | listed beyond undotted lowered => simp [lowered]

/-- The lower case of a text takes the characters of the class over one by one. -/
theorem lowerFrom_cons (h : Caseless P) (after : Bool) (c : Char) (rest : List Char) :
    ∃ head next, lowerFrom after (c :: rest) = head ++ lowerFrom next rest ∧ head ≠ [] ∧
      (P c.toNat → head = [c]) ∧ (¬P c.toNat → ∀ d ∈ head, ¬P d.toNat) := by
  refine ⟨_, _, rfl, ?_, ?_, ?_⟩
  · split
    · exact List.cons_ne_nil _ _
    · exact lowerChar_ne_nil c
  · intro hc
    rw [if_neg, h.lowerChar_of_mem hc]
    intro hn
    exact h.not_treated_apart (by decide) (by decide) (hn ▸ hc)
  · intro hc
    split
    · intro d hd
      have hsigma : d = 'ς' ∨ d = 'σ' := by
        rw [List.mem_singleton] at hd
        rw [hd]
        split
        · exact .inl rfl
        · exact .inr rfl
      rcases hsigma with rfl | rfl <;> exact h.not_treated_apart (by decide) (by decide)
    · exact h.lowerChar_of_not_mem hc

/-- The lower case of a text has the same characters of the class. -/
theorem mem_lowerFrom (h : Caseless P) {c : Char} (hc : P c.toNat) {after : Bool}
    {cs : List Char} : c ∈ lowerFrom after cs ↔ c ∈ cs := by
  induction cs generalizing after with
  | nil => exact Iff.rfl
  | cons d rest ih =>
    obtain ⟨head, next, he, -, hkept, hother⟩ := h.lowerFrom_cons after d rest
    rw [he, List.mem_append, ih, List.mem_cons]
    by_cases hd : P d.toNat
    · rw [hkept hd, List.mem_singleton]
    · have hne : c ≠ d := by
        rintro rfl
        exact hd hc
      have hout : c ∉ head := fun hm => hother hd c hm hc
      simp [hne, hout]

end Caseless

/-! ## White space -/

theorem isBlank_iff (c : Char) : isBlank c = true ↔ c.toNat ∈ blankPoints := by
  refine ⟨mem_blankPoints, fun h => ?_⟩
  have hall : ∀ n ∈ blankPoints, isBlank (Char.ofNat n) = true := by decide
  simpa using hall _ h

theorem caseless_blank : Caseless (· ∈ blankPoints) where
  apart := by decide
  null := by decide

/-- A text without white space is lowered to one. -/
theorem not_blank_lowerFrom {cs : List Char} (h : ∀ c ∈ cs, isBlank c = false) (after : Bool) :
    ∀ c ∈ lowerFrom after cs, isBlank c = false := by
  intro c hc
  by_contra hb
  rw [Bool.not_eq_false] at hb
  have hm := (caseless_blank.mem_lowerFrom ((isBlank_iff c).1 hb)).1 hc
  rw [h c hm] at hb
  cases hb

/-! ## ASCII in lower case -/

/-- Beyond ASCII, only the Kelvin sign has an ASCII letter for its lower case. -/
theorem lowerRuns_ascii : ∀ r ∈ lowerRuns, r.last < 0x80 ∨
    (r.first = 0x212A ∧ r.last = 0x212A) ∨ 0x80 ≤ (r.first : Int) + r.offset := by
  decide +kernel

/-- No block reaches into the code points that are no characters. -/
theorem letterBlocks_valid : ∀ b ∈ letterBlocks,
    b.2 < 0xD800 ∨ (0xDFFF < b.1 ∧ b.2 < 0x110000) := by
  decide

/-- A character that is not ASCII is lowered to an ASCII one if it is the Kelvin sign. -/
theorem eq_kelvin_of_mapByRuns {c : Char} (hc : 0x80 ≤ c.toNat)
    (h : (Char.ofNat (mapByRuns lowerRuns c.toNat)).toNat < 0x80) : c.toNat = 0x212A := by
  rcases mapByRuns_cases lowerRuns c.toNat with ⟨r, hr, hcovers, he⟩ | ⟨-, he⟩
  · obtain ⟨hl, hh, -⟩ := covers_iff.1 hcovers
    rcases lowerRuns_ascii r hr with hlast | hkelvin | himage
    · omega
    · omega
    · obtain ⟨-, b, hb, hfirst, hlast⟩ := lowerRuns_blocks r hr
      have hvalid : ((c.toNat : Int) + r.offset).toNat.isValidChar := by
        rcases letterBlocks_valid b hb with hlow | hhigh
        · exact .inl (by omega)
        · exact .inr ⟨by omega, by omega⟩
      rw [he, Char.ofNat, dif_pos hvalid] at h
      have hlow : ((c.toNat : Int) + r.offset).toNat < 0x80 := h
      omega
  · rw [he, Char.ofNat_toNat] at h
    omega

theorem lowerChar_of_ascii {c : Char} (h : ∀ d ∈ lowerChar c, d.toNat < 0x80) :
    lowerChar c = [foldChar c] := by
  cases lowerChar_cases c with
  | ascii small lowered => rw [lowered, foldChar, if_pos small]
  | dotted point lowered =>
    rw [lowered] at h
    exact absurd (h (Char.ofNat 0x307) (by simp)) (by decide)
  | listed beyond undotted lowered =>
    rw [lowered, List.forall_mem_singleton] at h
    have hkelvin : c = Char.ofNat 0x212A := by
      rw [← eq_kelvin_of_mapByRuns beyond h, Char.ofNat_toNat]
    rw [hkelvin]
    decide +kernel

theorem map_foldChar_of_ascii {cs : List Char} {after : Bool}
    (h : ∀ d ∈ lowerFrom after cs, d.toNat < 0x80) : cs.map foldChar = lowerFrom after cs := by
  induction cs generalizing after with
  | nil => rfl
  | cons c rest ih =>
    rw [lowerFrom] at h ⊢
    obtain ⟨hhead, hrest⟩ := List.forall_mem_append.1 h
    have hsigma : c.toNat ≠ 0x3A3 := by
      intro hc
      rw [if_pos hc, List.forall_mem_singleton] at hhead
      split at hhead <;> exact absurd hhead (by decide)
    rw [if_neg hsigma] at hhead ⊢
    rw [List.map_cons, ih hrest, lowerChar_of_ascii hhead, List.singleton_append]

/-- **A text that is ASCII in lower case is folded to the same.** -/
theorem fold_eq_lower {s : String} (h : ∀ c ∈ (lower s).toList, c.toNat < 0x80) :
    fold s = lower s := by
  rw [lower, String.toList_ofList] at h
  rw [fold, map_foldChar_of_ascii h, lower, lowerChars]

end Restyle.Text
