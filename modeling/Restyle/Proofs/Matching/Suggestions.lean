import Mathlib.Algebra.Order.Ring.Rat
import Mathlib.Data.List.Perm.Subperm
import Restyle.Matching.Ranking
import Restyle.Proofs.Text.Settled

/-!
# The best suggestions

Candidates are suggested for a text if they are similar enough to it or sound like it.  They are
sorted by their scores, the sort keeps candidates with equal scores in the order in which they were
given, and the first ones are taken.  So each place of the list of candidates, even of one that is
given twice, ranks before or after every other one, and the places that are taken are the foremost.

* `Foremost` — the first few of all that are worthy, in order, without a way to find them.
* `filter_mergeSort_of_equal` — a stable sort keeps the order of equals.
* `Qualifies`, `suggestionOf`, `RanksBefore` — who is suggested, as what, and before whom.
* `closeMatches_eq_iff` — the foremost of those that qualify are found, and nothing else.
-/

set_option autoImplicit false

namespace Restyle.Matching

open Restyle.Text

/-! ## The foremost of a kind -/

/-- A row of things is the foremost of all that are worthy: there are no more than asked for, each
ranks before those after it, and one is left out only if there are as many as asked for, and they
all rank before it. -/
structure Foremost {α : Type} (before : α → α → Prop) (worthy : α → Prop) (asked : Nat)
    (chosen : List α) : Prop where
  few : chosen.length ≤ asked
  entitled : ∀ c ∈ chosen, worthy c
  ranked : chosen.Pairwise before
  leftOut : ∀ c, worthy c → c ∉ chosen → chosen.length = asked ∧ ∀ d ∈ chosen, before d c

namespace Foremost

variable {α : Type} {before : α → α → Prop} {worthy : α → Prop} {asked : Nat}
  {ranking chosen others : List α}

/-- The beginning of a ranking of all that are worthy. -/
theorem take (hworthy : ∀ c, worthy c ↔ c ∈ ranking) (hranked : ranking.Pairwise before) :
    Foremost before worthy asked (ranking.take asked) where
  few := List.length_take_le asked ranking
  entitled c hc := (hworthy c).2 (List.mem_of_mem_take hc)
  ranked := hranked.sublist (List.take_sublist asked ranking)
  leftOut := by
    intro c hc hout
    have hsplit := List.take_append_drop asked ranking
    have hrest : c ∈ ranking.drop asked := by
      rw [hworthy, ← hsplit, List.mem_append] at hc
      exact hc.resolve_left hout
    refine ⟨?_, fun d hd => ?_⟩
    · have hmore := List.length_pos_of_mem hrest
      rw [List.length_drop] at hmore
      exact List.length_take_of_le (by omega)
    · rw [← hsplit, List.pairwise_append] at hranked
      exact hranked.2.2 d hd c hrest

/-- What is foremost in one row is in every other one. -/
theorem subset (hasymm : ∀ {a b}, before a b → ¬before b a)
    (h : Foremost before worthy asked chosen) (k : Foremost before worthy asked others) :
    chosen ⊆ others := by
  intro c hc
  by_contra hout
  obtain ⟨hfull, hbefore⟩ := k.leftOut c (h.entitled c hc) hout
  -- all others are chosen too, so one more than asked for is chosen
  have hall : others ⊆ chosen := by
    intro d hd
    by_contra hleft
    exact hasymm (hbefore d hd) ((h.leftOut d (k.entitled d hd) hleft).2 c hc)
  have hnodup : (c :: others).Nodup := by
    refine List.nodup_cons.2 ⟨hout, k.ranked.imp ?_⟩
    rintro a b hab rfl
    exact hasymm hab hab
  have hlength := (List.subperm_of_subset hnodup (List.cons_subset.2 ⟨hc, hall⟩)).length_le
  have hfew := h.few
  rw [List.length_cons] at hlength
  omega

/-- **No two rows are foremost.** -/
theorem unique (hasymm : ∀ {a b}, before a b → ¬before b a)
    (h : Foremost before worthy asked chosen) (k : Foremost before worthy asked others) :
    chosen = others := by
  have hne {a b : α} (hab : before a b) : a ≠ b := by
    rintro rfl
    exact hasymm hab hab
  have hperm : chosen.Perm others :=
    (List.perm_ext_iff_of_nodup (h.ranked.imp hne) (k.ranked.imp hne)).2
      fun c => ⟨fun hc => h.subset hasymm k hc, fun hc => k.subset hasymm h hc⟩
  exact hperm.eq_of_pairwise (fun a b _ _ hab hba => absurd hba (hasymm hab)) h.ranked k.ranked

end Foremost

/-! ## Sorting by scores -/

/-- **A stable sort keeps the order of equals.** -/
theorem filter_mergeSort_of_equal {α : Type} {le : α → α → Bool}
    (trans : ∀ a b c, le a b = true → le b c = true → le a c = true)
    (total : ∀ a b, (le a b || le b a) = true) {p : α → Bool} {l : List α}
    (hequal : ∀ a b, p a = true → p b = true → le a b = true) :
    (l.mergeSort le).filter p = l.filter p := by
  have hsorted : (l.filter p).Pairwise (le · · = true) := by
    rw [List.pairwise_iff_forall_sublist]
    intro a b hab
    have hmem := hab.subset
    exact hequal a b (List.mem_filter.1 (hmem List.mem_cons_self)).2
      (List.mem_filter.1 (hmem (List.mem_cons_of_mem a List.mem_cons_self))).2
  have hsub : ((l.filter p).filter p).Sublist ((l.mergeSort le).filter p) :=
    (List.sublist_mergeSort trans total hsorted List.filter_sublist).filter p
  rw [List.filter_filter] at hsub
  simp only [Bool.and_self] at hsub
  exact (hsub.eq_of_length ((List.mergeSort_perm l le).filter p).length_eq.symm).symm

/-- One thing at its place comes before another: its score is greater, or as great and its place is
an earlier one. -/
def Outranks {α : Type} (score : α → Rat) (a b : α × Nat) : Prop :=
  score b.1 < score a.1 ∨ score a.1 = score b.1 ∧ a.2 < b.2

theorem Outranks.asymm {α : Type} {score : α → Rat} {a b : α × Nat} (h : Outranks score a b) :
    ¬Outranks score b a := by
  rintro (hscore | ⟨hscore, hplace⟩)
  · rcases h with hless | ⟨hequal, -⟩
    · exact lt_asymm hscore hless
    · exact (ne_of_lt hscore) hequal
  · rcases h with hless | ⟨-, hearlier⟩
    · exact (ne_of_lt hless) hscore
    · exact Nat.lt_asymm hplace hearlier

/-- Things sorted by their scores, which come with their places in order, are ranked. -/
theorem outranks_mergeSort {α : Type} (score : α → Rat) {l : List (α × Nat)}
    (hplaces : l.Pairwise (·.2 < ·.2)) :
    (l.mergeSort fun a b => decide (score b.1 ≤ score a.1)).Pairwise (Outranks score) := by
  have trans (a b c : α × Nat) (hab : decide (score b.1 ≤ score a.1) = true)
      (hbc : decide (score c.1 ≤ score b.1) = true) : decide (score c.1 ≤ score a.1) = true := by
    rw [decide_eq_true_eq] at hab hbc ⊢
    exact le_trans hbc hab
  have total (a b : α × Nat) :
      (decide (score b.1 ≤ score a.1) || decide (score a.1 ≤ score b.1)) = true := by
    simpa using le_total (score b.1) (score a.1)
  have hsorted := List.pairwise_mergeSort trans total l
  rw [List.pairwise_iff_forall_sublist] at hsorted ⊢
  intro a b hab
  have hle : score b.1 ≤ score a.1 := by simpa using hsorted hab
  rcases lt_or_eq_of_le hle with hless | hequal
  · exact .inl hless
  · -- both are among those with this score, which are in the order of their places
    have hsame : (l.mergeSort fun a b => decide (score b.1 ≤ score a.1)).filter
        (fun c => score c.1 == score a.1) = l.filter fun c => score c.1 == score a.1 := by
      refine filter_mergeSort_of_equal trans total fun c d hc hd => ?_
      rw [beq_iff_eq] at hc hd
      rw [decide_eq_true_eq, hc, hd]
    have hboth := hab.filter fun c => score c.1 == score a.1
    rw [hsame] at hboth
    simp only [List.filter_cons, beq_self_eq_true, hequal, if_true, List.filter_nil] at hboth
    have hplace := List.pairwise_iff_forall_sublist.1 hplaces (hboth.trans List.filter_sublist)
    exact .inr ⟨hequal.symm, hplace⟩

/-- The entries of a list come with their places in order. -/
theorem pairwise_zipIdx {α : Type} (l : List α) (k : Nat) :
    (l.zipIdx k).Pairwise (·.2 < ·.2) := by
  induction l generalizing k with
  | nil => exact .nil
  | cons a l ih =>
    rw [List.zipIdx_cons, List.pairwise_cons]
    exact ⟨fun c hc => Nat.lt_of_succ_le (List.le_snd_of_mem_zipIdx hc), ih (k + 1)⟩

/-! ## Suggestions -/

/-- How similar a candidate is to a text, which is taken in lower case and trimmed. -/
def likeness (ρ : Rounding) (text candidate : String) : Rat :=
  similarity ρ (trim (lower text)) (lower candidate)

/-- A candidate is worth suggesting if it is similar enough or sounds like the text. -/
def Qualifies (ρ : Rounding) (minSimilarity : Rat) (text candidate : String) : Prop :=
  ρ minSimilarity ≤ likeness ρ text candidate ∨ soundsLike text candidate = true

instance decidableQualifies (ρ : Rounding) (minSimilarity : Rat) (text candidate : String) :
    Decidable (Qualifies ρ minSimilarity text candidate) :=
  inferInstanceAs (Decidable (_ ∨ _))

/-- The score of a suggestion is its likeness, but no less than the floor if it sounds like the
text. -/
def suggestionScore (ρ : Rounding) (text candidate : String) : Rat :=
  if soundsLike text candidate && decide (likeness ρ text candidate < ρ suggestionFloor) then
    ρ suggestionFloor
  else likeness ρ text candidate

/-- What is suggested of a candidate. -/
def suggestionOf (ρ : Rounding) (text candidate : String) : Match where
  candidate := candidate
  score := suggestionScore ρ text candidate
  exact := likeness ρ text candidate == 1
  phonetic := soundsLike text candidate

/-- One place of the candidates ranks before another: what is suggested of it scores more, or as
much and it is an earlier one. -/
abbrev RanksBefore (ρ : Rounding) (text : String) : String × Nat → String × Nat → Prop :=
  Outranks (suggestionScore ρ text)

/-- A place of the candidates holds one that is worth suggesting. -/
def HoldsQualified (ρ : Rounding) (minSimilarity : Rat) (text : String) (candidates : List String)
    (c : String × Nat) : Prop :=
  c ∈ candidates.zipIdx ∧ Qualifies ρ minSimilarity text c.1

/-! ## What is found -/

variable {ρ : Rounding} {minSimilarity : Rat} {text candidate : String}

/-- What is no white space is not lost when a text is trimmed. -/
theorem filter_trimChars {p : Char → Bool} (hp : ∀ c, isBlank c = true → p c = false)
    (cs : List Char) : (trimChars cs).filter p = cs.filter p := by
  have hgap (gap : List Char) (hg : ∀ c ∈ gap, isBlank c = true) : gap.filter p = [] := by
    rw [List.filter_eq_nil_iff]
    intro c hc
    simp [hp c (hg c hc)]
  obtain ⟨front, back, hfront, hback, hcs⟩ := exists_gaps cs
  conv_rhs => rw [hcs]
  rw [List.filter_append, List.filter_append, hgap front hfront, hgap back hback, List.nil_append,
    List.append_nil]

/-- A text sounds the same in lower case and trimmed. -/
theorem soundsLike_trim_lower (text candidate : String) :
    soundsLike (trim (lower text)) candidate = soundsLike text candidate := by
  have hletter (c : Char) (hc : isBlank c = true) : ('a' ≤ c && c ≤ 'z') = false := by
    have hall : ∀ n ∈ blankPoints, ('a' ≤ Char.ofNat n && Char.ofNat n ≤ 'z') = false := by decide
    simpa using hall _ (mem_blankPoints hc)
  have hsettled : ∀ c ∈ trimChars (lowerChars text.toList), Settled c.toNat := fun c hc =>
    settled_lowerFrom false text.toList c ((trimChars_isInfix _).subset hc)
  have hletters : soundLetters (trimChars (lowerChars text.toList)) = soundLetters text.toList := by
    rw [soundLetters, lowerChars, lowerFrom_of_settled hsettled, filter_trimChars hletter]
    rfl
  have hcode : soundCode (trim (lower text)) = soundCode text := by
    rw [soundCode, soundCode, trim, lower, String.toList_ofList, String.toList_ofList, hletters]
  rw [soundsLike, soundsLike, hcode]

/-- A candidate is suggested if it qualifies. -/
theorem suggestion?_eq : suggestion? ρ minSimilarity (trim (lower text)) candidate =
    if Qualifies ρ minSimilarity text candidate then some (suggestionOf ρ text candidate)
    else none := by
  have hqualifies : (ρ minSimilarity ≤ likeness ρ text candidate || soundsLike text candidate) = true
      ↔ Qualifies ρ minSimilarity text candidate := by
    rw [Bool.or_eq_true, decide_eq_true_eq, Qualifies]
  unfold suggestion?
  dsimp only
  rw [soundsLike_trim_lower]
  exact ite_congr (propext hqualifies) (fun _ => rfl) fun _ => rfl

/-- The places of the candidates that qualify, best first. -/
def ranking (ρ : Rounding) (minSimilarity : Rat) (text : String) (candidates : List String) :
    List (String × Nat) :=
  (candidates.zipIdx.filter fun c => decide (Qualifies ρ minSimilarity text c.1)).mergeSort
    fun a b => decide (suggestionScore ρ text b.1 ≤ suggestionScore ρ text a.1)

theorem mem_ranking {candidates : List String} {c : String × Nat} :
    c ∈ ranking ρ minSimilarity text candidates ↔
      HoldsQualified ρ minSimilarity text candidates c := by
  rw [ranking, List.mem_mergeSort, List.mem_filter, decide_eq_true_eq, HoldsQualified]

theorem ranked_ranking (candidates : List String) :
    (ranking ρ minSimilarity text candidates).Pairwise (RanksBefore ρ text) :=
  outranks_mergeSort _ ((pairwise_zipIdx candidates 0).sublist List.filter_sublist)

/-- Suggestions are made of places as they are of candidates. -/
theorem filterMap_suggestion? (places : List (String × Nat)) :
    (places.map Prod.fst).filterMap (suggestion? ρ minSimilarity (trim (lower text))) =
      (places.filter fun c => decide (Qualifies ρ minSimilarity text c.1)).map
        fun c => suggestionOf ρ text c.1 := by
  induction places with
  | nil => rfl
  | cons c rest ih =>
    rw [List.map_cons, List.filterMap_cons, suggestion?_eq, ih]
    by_cases hc : Qualifies ρ minSimilarity text c.1
    · simp [hc]
    · simp [hc]

/-- The first of the ranking are what is found. -/
theorem closeMatches_eq (ρ : Rounding) (text : String) (candidates : List String) (asked : Nat)
    (minSimilarity : Rat) : closeMatches ρ text candidates asked minSimilarity =
      ((ranking ρ minSimilarity text candidates).take asked).map
        fun c => suggestionOf ρ text c.1 := by
  have hall : candidates.filterMap (suggestion? ρ minSimilarity (trim (lower text))) =
      (candidates.zipIdx.filter fun c => decide (Qualifies ρ minSimilarity text c.1)).map
        fun c => suggestionOf ρ text c.1 := by
    conv_lhs => rw [← List.zipIdx_map_fst 0 candidates]
    exact filterMap_suggestion? candidates.zipIdx
  unfold closeMatches
  dsimp only
  rw [leading_natCast, hall, List.map_take, ranking, List.map_mergeSort]
  exact fun _ _ _ _ => rfl

/-- **The best suggestions for a text are what is found for it**: of the places of the candidates
that are similar enough or sound like the text, the foremost, as many as asked for or all there are.
A place comes before another if its score is greater, and where scores are equal, if it is the
earlier one.  This holds of exact fractions as well as of scores that are rounded. -/
theorem closeMatches_eq_iff (ρ : Rounding) (text : String) (candidates : List String)
    (asked : Nat) (minSimilarity : Rat) (found : List Match) :
    closeMatches ρ text candidates asked minSimilarity = found ↔
      ∃ chosen, Foremost (RanksBefore ρ text)
          (HoldsQualified ρ minSimilarity text candidates) asked chosen ∧
        found = chosen.map fun c => suggestionOf ρ text c.1 := by
  have hforemost : Foremost (RanksBefore ρ text)
      (HoldsQualified ρ minSimilarity text candidates) asked
      ((ranking ρ minSimilarity text candidates).take asked) :=
    .take (fun c => mem_ranking.symm) (ranked_ranking candidates)
  rw [closeMatches_eq]
  constructor
  · rintro rfl
    exact ⟨_, hforemost, rfl⟩
  · rintro ⟨chosen, hchosen, rfl⟩
    rw [hforemost.unique Outranks.asymm hchosen]

end Restyle.Matching
