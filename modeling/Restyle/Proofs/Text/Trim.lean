import Mathlib.Data.List.DropRight
import Restyle.Text.Blank
import Restyle.Text.Digit

/-!
# Trimmed text

Text is trimmed when neither its first nor its last character is white space.

* `trimmed_trimChars`, `Trimmed.trimChars_eq` — trimming gives trimmed text and leaves trimmed
  text alone.
* `isBlank_of_isDigit` — no digit of any script is white space.
-/

set_option autoImplicit false

namespace Restyle.Text

/-- No white space at either end. -/
structure Trimmed (cs : List Char) : Prop where
  head : ∀ c ∈ cs.head?, isBlank c = false
  last : ∀ c ∈ cs.getLast?, isBlank c = false

/-- The last character of trimmed text is that of every part that stands at its end. -/
theorem Trimmed.last_of_suffix {cs ds : List Char} (h : Trimmed cs) (hs : ds <:+ cs) :
    ∀ c ∈ ds.getLast?, isBlank c = false := by
  obtain ⟨before, rfl⟩ := hs
  intro c hc
  apply h.last c
  rw [List.getLast?_append, hc]
  rfl

theorem dropWhile_eq_self {p : Char → Bool} :
    ∀ {cs : List Char}, (∀ c ∈ cs.head?, p c = false) → cs.dropWhile p = cs
  | [], _ => rfl
  | c :: _, h => List.dropWhile_cons_of_neg (by simp [h c rfl])

theorem head?_dropWhile_isBlank (cs : List Char) :
    ∀ c ∈ (cs.dropWhile isBlank).head?, isBlank c = false := by
  intro c hc
  have h := List.head?_dropWhile_not isBlank cs
  rw [hc] at h
  simpa using h

theorem trimEndChars_isPrefix (cs : List Char) : trimEndChars cs <+: cs :=
  List.rdropWhile_prefix isBlank cs

theorem trimmed_trimChars (cs : List Char) : Trimmed (trimChars cs) where
  head := by
    intro c hc
    obtain ⟨t, ht⟩ := trimEndChars_isPrefix (cs.dropWhile isBlank)
    have hd : (cs.dropWhile isBlank).head? = some c := by
      rw [← ht, List.head?_append]
      unfold trimChars at hc
      rw [hc]
      rfl
    exact head?_dropWhile_isBlank cs c hd
  last := by
    intro c hc
    unfold trimChars trimEndChars at hc
    rw [List.getLast?_reverse] at hc
    exact head?_dropWhile_isBlank _ c hc

theorem Trimmed.trimEndChars_eq {cs : List Char} (h : Trimmed cs) : trimEndChars cs = cs := by
  unfold trimEndChars
  rw [dropWhile_eq_self, List.reverse_reverse]
  intro c hc
  rw [List.head?_reverse] at hc
  exact h.last c hc

/-- Trimmed text stays as it is. -/
theorem Trimmed.trimChars_eq {cs : List Char} (h : Trimmed cs) : trimChars cs = cs := by
  rw [trimChars, dropWhile_eq_self h.head, h.trimEndChars_eq]

theorem trimmed_trim (s : String) : Trimmed (trim s).toList := by
  rw [trim, String.toList_ofList]
  exact trimmed_trimChars s.toList

theorem trim_trim (s : String) : trim (trim s) = trim s := by
  rw [trim, trim, String.toList_ofList, (trimmed_trimChars s.toList).trimChars_eq]

/-! ## Parts of a text -/

theorem trimChars_cons_blank {c : Char} (hc : isBlank c = true) (cs : List Char) :
    trimChars (c :: cs) = trimChars cs := by
  rw [trimChars, List.dropWhile_cons_of_pos hc]
  rfl

/-- White space at the end is dropped. -/
theorem trimEndChars_append_blank {gap : List Char} (hg : ∀ c ∈ gap, isBlank c = true)
    (cs : List Char) : trimEndChars (cs ++ gap) = trimEndChars cs := by
  have hdrop : gap.reverse.dropWhile isBlank = [] := by
    rw [List.dropWhile_eq_nil_iff]
    exact fun c hc => hg c (List.mem_reverse.1 hc)
  rw [trimEndChars, List.reverse_append, List.dropWhile_append, hdrop]
  rfl

theorem trimEndChars_ne_nil {c : Char} (hc : isBlank c = false) (cs : List Char) :
    trimEndChars (c :: cs) ≠ [] := by
  intro hnil
  rw [trimEndChars, List.reverse_eq_nil_iff, List.dropWhile_eq_nil_iff] at hnil
  have hblank := hnil c (by simp)
  rw [hc] at hblank
  cases hblank

/-- White space at the end of a text with other characters is that at the end of its last part. -/
theorem trimEndChars_append {cs ds : List Char} (h : trimEndChars ds ≠ []) :
    trimEndChars (cs ++ ds) = cs ++ trimEndChars ds := by
  have hne : (ds.reverse.dropWhile isBlank).isEmpty = false := by
    rw [List.isEmpty_eq_false_iff]
    exact fun hnil => h (List.reverse_eq_nil_iff.2 hnil)
  rw [trimEndChars, trimEndChars, List.reverse_append, List.dropWhile_append, hne]
  simp

theorem trimChars_append_blank {gap : List Char} (hg : ∀ c ∈ gap, isBlank c = true)
    (cs : List Char) : trimChars (cs ++ gap) = trimChars cs := by
  have hdrop : gap.dropWhile isBlank = [] := List.dropWhile_eq_nil_iff.2 hg
  rw [trimChars, trimChars, List.dropWhile_append, hdrop]
  split
  · rename_i hnone
    rw [List.isEmpty_iff.1 hnone]
  · exact trimEndChars_append_blank hg _

/-- **Only white space is dropped**, at the front and at the end. -/
theorem exists_gaps (cs : List Char) : ∃ front back, (∀ c ∈ front, isBlank c = true) ∧
    (∀ c ∈ back, isBlank c = true) ∧ cs = front ++ trimChars cs ++ back := by
  refine ⟨cs.takeWhile isBlank, (cs.dropWhile isBlank).rtakeWhile isBlank,
    fun c => List.mem_takeWhile_imp, fun c => List.mem_rtakeWhile_imp, ?_⟩
  have hend : trimChars cs ++ (cs.dropWhile isBlank).rtakeWhile isBlank = cs.dropWhile isBlank := by
    simp [trimChars, trimEndChars, List.rtakeWhile, ← List.reverse_append]
  rw [List.append_assoc, hend, List.takeWhile_append_dropWhile]

/-! ## Digits are not white space -/

/-- The code points of white space. -/
def blankPoints : List Nat :=
  (List.range 0x21).filter (fun n => (9 ≤ n && n ≤ 13) || 28 ≤ n) ++
    [0x85, 0xA0, 0x1680, 0x2000, 0x2001, 0x2002, 0x2003, 0x2004, 0x2005, 0x2006, 0x2007, 0x2008,
      0x2009, 0x200A, 0x2028, 0x2029, 0x202F, 0x205F, 0x3000]

theorem mem_blankPoints {c : Char} (h : isBlank c = true) : c.toNat ∈ blankPoints := by
  simp only [isBlank, Bool.or_eq_true, Bool.and_eq_true, decide_eq_true_eq, beq_iff_eq] at h
  simp only [blankPoints, List.mem_append, List.mem_filter, List.mem_range, Bool.or_eq_true,
    Bool.and_eq_true, decide_eq_true_eq, List.mem_cons, List.not_mem_nil]
  omega

theorem isBlank_of_isDigit {c : Char} (h : isDigit c = true) : isBlank c = false := by
  by_contra hb
  have hm := mem_blankPoints (by simpa using hb)
  have hnone : ∀ n ∈ blankPoints, ¬(0x30 ≤ n ∧ n ≤ 0x39) ∧
      digitZeros.find? (fun z => z ≤ n && n < z + 10) = none := by decide
  obtain ⟨h1, h2⟩ := hnone _ hm
  simp only [isDigit, digitValue?, h2] at h
  split at h
  · split at h
    · rename_i hr
      simp only [Bool.and_eq_true, decide_eq_true_eq] at hr
      exact h1 hr
    · simp at h
  · simp at h

end Restyle.Text
