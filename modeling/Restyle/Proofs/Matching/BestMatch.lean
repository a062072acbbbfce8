import Mathlib.Algebra.Order.Ring.Rat
import Mathlib.Data.List.Induction
import Mathlib.Order.Bounds.Basic
import Restyle.Proofs.Matching.Shortlist

/-!
# The best match

A candidate earns a score for few edits, for the same sound, and for beginning with the text.
The scores are looked at one after another, and one takes the place of the best so far only if it
is greater.  So what is left at the end is the earliest candidate with the greatest score, and of
its signals the first one with that score.

* `Leads` — the first match of a list with the greatest score.
* `foldl_better_eq_some` — it is what is left of a list.
* `Earns`, `IsBestMatch` — the scores and the best match, without a way to find it.
* `bestMatch?_eq_iff` — it is what is found.
* `bestMatch?_isSome_of_within` — wider limits find a match wherever narrower ones do.
-/

set_option autoImplicit false

namespace Restyle.Matching

open Restyle.Text

/-! ## The first of the greatest scores -/

/-- A match is the first one of a list with the greatest score. -/
inductive Leads (m : Match) : List Match → Prop
  | here {after : List Match} (h : ∀ x ∈ after, x.score ≤ m.score) : Leads m (m :: after)
  | later {x : Match} {rest : List Match} (h : x.score < m.score) (k : Leads m rest) :
    Leads m (x :: rest)

variable {m x : Match} {ms ns : List Match}

theorem not_leads_nil : ¬Leads m [] := nofun

theorem leads_cons : Leads m (x :: ms) ↔
    (m = x ∧ ∀ y ∈ ms, y.score ≤ m.score) ∨ x.score < m.score ∧ Leads m ms := by
  constructor
  · intro h
    cases h with
    | here h => exact .inl ⟨rfl, h⟩
    | later h k => exact .inr ⟨h, k⟩
  · rintro (⟨rfl, h⟩ | ⟨h, k⟩)
    · exact .here h
    · exact .later h k

theorem leads_singleton : Leads m [x] ↔ m = x := by
  simp [leads_cons, not_leads_nil]

namespace Leads

theorem mem (h : Leads m ms) : m ∈ ms := by
  induction h with
  | here _ => exact List.mem_cons_self
  | later _ _ ih => exact List.mem_cons_of_mem _ ih

theorem score_le (h : Leads m ms) : ∀ x ∈ ms, x.score ≤ m.score := by
  induction h with
  | here h => exact List.forall_mem_cons.2 ⟨le_refl _, h⟩
  | later h _ ih => exact List.forall_mem_cons.2 ⟨le_of_lt h, ih⟩

end Leads

/-- Of matches one after another, one in the first list leads, or one in the second that is
greater than all of the first. -/
theorem leads_append : Leads m (ms ++ ns) ↔
    (Leads m ms ∧ ∀ x ∈ ns, x.score ≤ m.score) ∨ (∀ x ∈ ms, x.score < m.score) ∧ Leads m ns := by
  induction ms with
  | nil => simp [not_leads_nil]
  | cons y ms ih =>
    rw [List.cons_append, leads_cons, ih, leads_cons, List.forall_mem_append, List.forall_mem_cons]
    constructor
    · rintro (⟨hm, hms, hns⟩ | ⟨hy, ⟨hms, hns⟩ | ⟨hms, hns⟩⟩)
      · exact .inl ⟨.inl ⟨hm, hms⟩, hns⟩
      · exact .inl ⟨.inr ⟨hy, hms⟩, hns⟩
      · exact .inr ⟨⟨hy, hms⟩, hns⟩
    · rintro (⟨⟨hm, hms⟩ | ⟨hy, hms⟩, hns⟩ | ⟨⟨hy, hms⟩, hns⟩)
      · exact .inl ⟨hm, hms, hns⟩
      · exact .inr ⟨hy, .inl ⟨hms, hns⟩⟩
      · exact .inr ⟨hy, .inr ⟨hms, hns⟩⟩

theorem exists_leads (h : ms ≠ []) : ∃ m, Leads m ms := by
  induction ms with
  | nil => exact absurd rfl h
  | cons x ms ih =>
    by_cases hms : ms = []
    · rw [hms]
      exact ⟨x, leads_singleton.2 rfl⟩
    · obtain ⟨m, hm⟩ := ih hms
      by_cases hx : x.score < m.score
      · exact ⟨m, .later hx hm⟩
      · exact ⟨x, .here fun y hy => (hm.score_le y hy).trans (not_lt.1 hx)⟩

/-- **What is left of a list is its first match with the greatest score.** -/
theorem foldl_better_eq_some : ms.foldl better none = some m ↔ Leads m ms := by
  induction ms using List.reverseRecOn generalizing m with
  | nil => simp [not_leads_nil]
  | append_singleton ms x ih =>
    rw [List.foldl_append, List.foldl_cons, List.foldl_nil, leads_append, leads_singleton,
      List.forall_mem_singleton]
    cases hbest : ms.foldl better none with
    | none =>
      have hms : ms = [] := by
        by_contra hne
        obtain ⟨b, hb⟩ := exists_leads hne
        rw [ih.2 hb] at hbest
        cases hbest
      simp [better, hms, not_leads_nil, eq_comm]
    | some b =>
      have hb := ih.1 hbest
      have hunique : Leads m ms ↔ b = m := by rw [← ih, hbest, Option.some_inj]
      rw [better, hunique]
      split
      · rename_i hx
        have hless : ∀ y ∈ ms, y.score < x.score := fun y hy => (hb.score_le y hy).trans_lt hx
        constructor
        · intro h
          obtain rfl := Option.some.inj h
          exact .inr ⟨hless, rfl⟩
        · rintro (⟨rfl, hle⟩ | ⟨-, rfl⟩)
          · exact absurd hx (not_lt.2 hle)
          · rfl
      · rename_i hx
        constructor
        · intro h
          obtain rfl := Option.some.inj h
          exact .inl ⟨rfl, not_lt.1 hx⟩
        · rintro (⟨rfl, -⟩ | ⟨hless, rfl⟩)
          · rfl
          · exact absurd (hless b hb.mem) hx

/-- The first leader of lists one after another leads one of them, and is greater than all before
it. -/
theorem leads_flatMap {f : String → List Match} {candidates : List String}
    (h : Leads m (candidates.flatMap f)) : ∃ before c after, candidates = before ++ c :: after ∧
      (∀ x ∈ before.flatMap f, x.score < m.score) ∧ Leads m (f c) := by
  induction candidates with
  | nil => exact absurd h not_leads_nil
  | cons c rest ih =>
    rw [List.flatMap_cons, leads_append] at h
    rcases h with ⟨hc, -⟩ | ⟨hless, hrest⟩
    · exact ⟨[], c, rest, rfl, List.forall_mem_nil _, hc⟩
    · obtain ⟨before, d, after, rfl, hbefore, hd⟩ := ih hrest
      refine ⟨c :: before, d, after, rfl, ?_, hd⟩
      rw [List.flatMap_cons]
      exact List.forall_mem_append.2 ⟨hless, hbefore⟩

/-! ## Scores -/

/-- What a candidate earns a score for, in the order in which it is looked at. -/
inductive Signal where
  | near
  | sound
  | opening
  deriving DecidableEq, Repr

/-- Whether a candidate gives a signal: it is few edits away, or has the same sound code, which is
not empty, or begins with the text, which is not too short.  The text is in lower case and
trimmed. -/
def Signal.Given (limits : Limits) (text candidate : String) : Signal → Prop
  | .near => (editDistance text (lower candidate) : Int) ≤ limits.maxDistance
  | .sound => limits.usePhonetic = true ∧ soundCode text ≠ "" ∧
    soundCode text = soundCode (lower candidate)
  | .opening => 3 ≤ text.length ∧ text.toList <+: (lower candidate).toList

/-- The score of a signal: the similarity of a candidate that is near, and else a fixed one. -/
def Signal.score (ρ : Rounding) (text candidate : String) : Signal → Rat
  | .near => similarity ρ text (lower candidate)
  | .sound => ρ soundScore
  | .opening => ρ prefixScore

/-- A candidate earns a score by a signal. -/
def Earns (ρ : Rounding) (limits : Limits) (text candidate : String) (signal : Signal)
    (q : Rat) : Prop :=
  signal.Given limits text candidate ∧ signal.score ρ text candidate = q

/-- All scores that candidates earn. -/
def scores (ρ : Rounding) (limits : Limits) (text : String) (candidates : List String) : Set Rat :=
  {q | ∃ c ∈ candidates, ∃ signal, Earns ρ limits text c signal q}

variable {ρ : Rounding} {limits : Limits} {text candidate : String} {candidates : List String}
  {q : Rat}

theorem soundsLike_iff {a b : String} :
    soundsLike a b = true ↔ soundCode a ≠ "" ∧ soundCode a = soundCode b := by
  simp [soundsLike]

/-- The signals that are looked at are those that are given. -/
theorem mem_signals_iff : x ∈ signals ρ limits text candidate ↔
    ∃ signal : Signal, signal.Given limits text candidate ∧
      x = { candidate, score := signal.score ρ text candidate, phonetic := signal == .sound } := by
  unfold signals
  simp only [List.mem_append, List.mem_ite_nil_right, List.mem_singleton, Bool.and_eq_true,
    soundsLike_iff, decide_eq_true_eq, List.isPrefixOf_iff_prefix]
  constructor
  · rintro ((⟨given, rfl⟩ | ⟨given, rfl⟩) | ⟨given, rfl⟩)
    · exact ⟨.near, given, rfl⟩
    · exact ⟨.sound, given, rfl⟩
    · exact ⟨.opening, given, rfl⟩
  · rintro ⟨signal, given, rfl⟩
    cases signal with
    | near => exact .inl (.inl ⟨given, rfl⟩)
    | sound => exact .inl (.inr ⟨given, rfl⟩)
    | opening => exact .inr ⟨given, rfl⟩

theorem mem_scores : q ∈ scores ρ limits text candidates ↔
    ∃ x ∈ candidates.flatMap (signals ρ limits text), x.score = q := by
  constructor
  · rintro ⟨c, hc, signal, given, rfl⟩
    exact ⟨_, List.mem_flatMap.2 ⟨c, hc, mem_signals_iff.2 ⟨signal, given, rfl⟩⟩, rfl⟩
  · rintro ⟨x, hx, rfl⟩
    obtain ⟨c, hc, hsignal⟩ := List.mem_flatMap.1 hx
    obtain ⟨signal, given, rfl⟩ := mem_signals_iff.1 hsignal
    exact ⟨c, hc, signal, given, rfl⟩

/-- The score of the leader is the greatest one. -/
theorem Leads.isGreatest (h : Leads m (candidates.flatMap (signals ρ limits text))) :
    IsGreatest (scores ρ limits text candidates) m.score := by
  refine ⟨mem_scores.2 ⟨m, h.mem, rfl⟩, ?_⟩
  intro q hq
  obtain ⟨x, hx, rfl⟩ := mem_scores.1 hq
  exact h.score_le x hx

theorem leads_ite {c : Prop} [Decidable c] : Leads m (if c then [x] else []) ↔ c ∧ m = x := by
  split
  · rename_i hc
    rw [leads_singleton, and_iff_right hc]
  · rename_i hc
    simp [not_leads_nil, hc]

/-- The leader of the signals of one candidate is its sound exactly when that has the score and no
earlier signal has. -/
theorem Leads.phonetic_iff (h : Leads m (signals ρ limits text candidate)) :
    m.phonetic = true ↔ Earns ρ limits text candidate .sound m.score ∧
      ¬Earns ρ limits text candidate .near m.score := by
  simp only [signals, leads_append, leads_ite, List.forall_mem_append] at h
  rcases h with ⟨⟨⟨few, rfl⟩, -⟩ | ⟨hnear, hsound, rfl⟩, -⟩ | ⟨⟨-, hsound⟩, -, rfl⟩
  · have hearns : Earns ρ limits text candidate .near (similarity ρ text (lower candidate)) :=
      ⟨few, rfl⟩
    simp [hearns]
  · rw [Bool.and_eq_true, soundsLike_iff] at hsound
    refine ⟨fun _ => ⟨⟨hsound, rfl⟩, ?_⟩, fun _ => rfl⟩
    rintro ⟨few, hscore⟩
    have hless := hnear _ (List.mem_ite_nil_right.2 ⟨few, List.mem_singleton_self _⟩)
    exact (ne_of_lt hless) hscore
  · constructor
    · intro hphonetic
      cases hphonetic
    · rintro ⟨⟨⟨asked, same⟩, hscore⟩, -⟩
      have hgiven : (limits.usePhonetic && soundsLike text (lower candidate)) = true := by
        rw [Bool.and_eq_true, soundsLike_iff]
        exact ⟨asked, same⟩
      have hless := hsound _ (List.mem_ite_nil_right.2 ⟨hgiven, List.mem_singleton_self _⟩)
      exact absurd hscore (ne_of_lt hless)

/-! ## The best match -/

/-- A match wins: it has the greatest score of all, its candidate is the earliest one that earns
it, and it counts as one of sound if that is the first signal of the candidate with the score. -/
structure Wins (ρ : Rounding) (limits : Limits) (text : String) (candidates : List String)
    (m : Match) : Prop where
  greatest : IsGreatest (scores ρ limits text candidates) m.score
  earliest : ∃ before after, candidates = before ++ m.candidate :: after ∧
    (∀ c ∈ before, ∀ signal, ¬Earns ρ limits text c signal m.score) ∧
    ∃ signal, Earns ρ limits text m.candidate signal m.score
  phonetic : m.phonetic = true ↔ Earns ρ limits text m.candidate .sound m.score ∧
    ¬Earns ρ limits text m.candidate .near m.score
  inexact : m.exact = false

/-- The best match of a text, which is in lower case and trimmed, among candidates. -/
inductive IsBestMatch (ρ : Rounding) (limits : Limits) (text : String)
    (candidates : List String) : Option Match → Prop
  /-- The first candidate that agrees with the text. -/
  | agrees {before after : List String} {c : String} (split : candidates = before ++ c :: after)
    (first : ∀ d ∈ before, lower d ≠ text) (agrees : lower c = text) :
    IsBestMatch ρ limits text candidates (some { candidate := c, score := 1, exact := true })
  /-- The winner where none agrees, if its score is not too low. -/
  | wins {m : Match} (disagree : ∀ c ∈ candidates, lower c ≠ text)
    (wins : Wins ρ limits text candidates m) (enough : ¬m.score < ρ limits.minSimilarity) :
    IsBestMatch ρ limits text candidates (some m)
  /-- None where none agrees, and there is no score or the greatest one is too low. -/
  | none (disagree : ∀ c ∈ candidates, lower c ≠ text)
    (low : scores ρ limits text candidates = ∅ ∨ ∃ greatest,
      IsGreatest (scores ρ limits text candidates) greatest ∧ greatest < ρ limits.minSimilarity) :
    IsBestMatch ρ limits text candidates none

/-- The leader of all signals wins. -/
theorem Leads.wins (h : Leads m (candidates.flatMap (signals ρ limits text))) :
    Wins ρ limits text candidates m := by
  obtain ⟨before, c, after, hsplit, hbefore, hc⟩ := leads_flatMap h
  obtain ⟨signal, given, hm⟩ := mem_signals_iff.1 hc.mem
  have hcandidate : m.candidate = c := congrArg Match.candidate hm
  have hscore : signal.score ρ text c = m.score := congrArg Match.score hm.symm
  refine ⟨h.isGreatest, ⟨before, after, ?_, ?_, ?_⟩, ?_, ?_⟩
  · rw [hcandidate, hsplit]
  · rintro d hd other ⟨hgiven, hequal⟩
    have hless := hbefore _ (List.mem_flatMap.2 ⟨d, hd, mem_signals_iff.2 ⟨other, hgiven, rfl⟩⟩)
    exact (ne_of_lt hless) hequal
  · rw [hcandidate]
    exact ⟨signal, given, hscore⟩
  · rw [hcandidate]
    exact hc.phonetic_iff
  · rw [hm]

/-- The first of a list with a property is found in one place only. -/
theorem eq_of_first {α : Type} {p : α → Prop} {before after before' after' : List α} {c d : α}
    (h : before ++ c :: after = before' ++ d :: after') (hbefore : ∀ x ∈ before, ¬p x) (hc : p c)
    (hbefore' : ∀ x ∈ before', ¬p x) (hd : p d) : c = d := by
  induction before generalizing before' with
  | nil =>
    cases before' with
    | nil => exact (List.cons.inj h).1
    | cons x rest =>
      obtain ⟨rfl, -⟩ := List.cons.inj h
      exact absurd hc (hbefore' c List.mem_cons_self)
  | cons x rest ih =>
    cases before' with
    | nil =>
      obtain ⟨rfl, -⟩ := List.cons.inj h
      exact absurd hd (hbefore x List.mem_cons_self)
    | cons y rest' =>
      exact ih (List.cons.inj h).2 (fun z hz => hbefore z (List.mem_cons_of_mem _ hz))
        fun z hz => hbefore' z (List.mem_cons_of_mem _ hz)

/-- No two matches win. -/
theorem Wins.unique {n : Match} (h : Wins ρ limits text candidates m)
    (k : Wins ρ limits text candidates n) : m = n := by
  have hscore : m.score = n.score := h.greatest.unique k.greatest
  have hcandidate : m.candidate = n.candidate := by
    obtain ⟨before, after, hsplit, hbefore, hearns⟩ := h.earliest
    obtain ⟨before', after', hsplit', hbefore', hearns'⟩ := k.earliest
    rw [← hscore] at hbefore' hearns'
    exact eq_of_first (p := fun c => ∃ signal, Earns ρ limits text c signal m.score)
      (hsplit.symm.trans hsplit') (fun c hc => not_exists.2 (hbefore c hc)) hearns
      (fun c hc => not_exists.2 (hbefore' c hc)) hearns'
  have hphonetic : m.phonetic = n.phonetic := by
    rw [Bool.eq_iff_iff, h.phonetic, k.phonetic, hcandidate, hscore]
  have hexact : m.exact = n.exact := by rw [h.inexact, k.inexact]
  cases m
  cases n
  simp_all

/-! ## What is found -/

variable {input : String}

/-- The first candidate that agrees with a text is found. -/
theorem bestMatch?_of_agrees {before after : List String}
    (hsplit : candidates = before ++ candidate :: after)
    (hbefore : ∀ c ∈ before, lower c ≠ trim (lower input))
    (hagrees : lower candidate = trim (lower input)) :
    bestMatch? ρ limits input candidates = some { candidate, score := 1, exact := true } := by
  have hfind : candidates.find? (fun c => lower c == trim (lower input)) = some candidate :=
    List.find?_eq_some_iff_append.2
      ⟨by simpa using hagrees, before, after, hsplit, by simpa using hbefore⟩
  unfold bestMatch?
  dsimp only
  rw [hfind]

/-- Where none agrees, the leader is found if its score is not too low. -/
theorem bestMatch?_of_disagree (h : ∀ c ∈ candidates, lower c ≠ trim (lower input)) :
    bestMatch? ρ limits input candidates = some m ↔
      Leads m (candidates.flatMap (signals ρ limits (trim (lower input)))) ∧
        ¬m.score < ρ limits.minSimilarity := by
  have hnone : candidates.find? (fun c => lower c == trim (lower input)) = none := by
    rw [List.find?_eq_none]
    intro c hc
    simpa using h c hc
  unfold bestMatch?
  dsimp only
  rw [hnone, ← foldl_better_eq_some]
  cases (candidates.flatMap (signals ρ limits (trim (lower input)))).foldl better none with
  | none => simp
  | some best =>
    by_cases hlow : best.score < ρ limits.minSimilarity
    · simp only [hlow, if_true, Option.some_inj]
      refine ⟨nofun, ?_⟩
      rintro ⟨rfl, henough⟩
      exact absurd hlow henough
    · simp only [hlow, if_false, Option.some_inj]
      exact ⟨fun hm => ⟨hm, hm ▸ hlow⟩, fun hm => hm.1⟩

/-- What is found is the best match. -/
theorem isBestMatch_bestMatch? (ρ : Rounding) (limits : Limits) (input : String)
    (candidates : List String) :
    IsBestMatch ρ limits (trim (lower input)) candidates
      (bestMatch? ρ limits input candidates) := by
  by_cases hagree : ∃ c ∈ candidates, lower c = trim (lower input)
  · obtain ⟨c, hc⟩ := Option.isSome_iff_exists.1 (show (candidates.find? fun c =>
      lower c == trim (lower input)).isSome = true by simpa using hagree)
    obtain ⟨hagrees, before, after, hsplit, hbefore⟩ := List.find?_eq_some_iff_append.1 hc
    simp only [beq_iff_eq, Bool.not_eq_true', beq_eq_false_iff_ne] at hagrees hbefore
    rw [bestMatch?_of_agrees hsplit hbefore hagrees]
    exact .agrees hsplit hbefore hagrees
  · have hdisagree : ∀ c ∈ candidates, lower c ≠ trim (lower input) := by simpa using hagree
    cases hfound : bestMatch? ρ limits input candidates with
    | some m =>
      obtain ⟨hleads, henough⟩ := (bestMatch?_of_disagree hdisagree).1 hfound
      exact .wins hdisagree hleads.wins henough
    | none =>
      refine .none hdisagree ?_
      by_cases hempty : candidates.flatMap (signals ρ limits (trim (lower input))) = []
      · refine .inl (Set.eq_empty_iff_forall_notMem.2 fun q hq => ?_)
        obtain ⟨x, hx, -⟩ := mem_scores.1 hq
        simp [hempty] at hx
      · obtain ⟨m, hm⟩ := exists_leads hempty
        refine .inr ⟨m.score, hm.isGreatest, ?_⟩
        by_contra henough
        rw [(bestMatch?_of_disagree hdisagree).2 ⟨hm, henough⟩] at hfound
        cases hfound

/-- **The best match of a text is what is found for it**: the first candidate that agrees with the
text, else the earliest one with the greatest score, and none if that is too low.  This holds of
exact fractions as well as of scores that are rounded. -/
theorem bestMatch?_eq_iff (ρ : Rounding) (limits : Limits) (input : String)
    (candidates : List String) (found : Option Match) :
    bestMatch? ρ limits input candidates = found ↔
      IsBestMatch ρ limits (trim (lower input)) candidates found := by
  constructor
  · rintro rfl
    exact isBestMatch_bestMatch? ρ limits input candidates
  · intro h
    cases h with
    | agrees split first agrees => exact bestMatch?_of_agrees split first agrees
    | @wins m disagree wins enough =>
      obtain ⟨x, hx, -⟩ := mem_scores.1 wins.greatest.1
      obtain ⟨leader, hleader⟩ := exists_leads (List.ne_nil_of_mem hx)
      obtain rfl := wins.unique hleader.wins
      exact (bestMatch?_of_disagree disagree).2 ⟨hleader, enough⟩
    | none disagree low =>
      rw [Option.eq_none_iff_forall_ne_some]
      intro m hm
      obtain ⟨hleads, henough⟩ := (bestMatch?_of_disagree disagree).1 hm
      rcases low with hempty | ⟨greatest, hgreatest, hlow⟩
      · exact absurd hleads.isGreatest.1 (hempty ▸ Set.notMem_empty _)
      · exact henough (hgreatest.unique hleads.isGreatest ▸ hlow)

/-! ## Wider limits -/

/-- There is a match where a candidate agrees with the text, or earns a score that is high
enough. -/
theorem bestMatch?_isSome_iff : (bestMatch? ρ limits input candidates).isSome = true ↔
    (∃ c ∈ candidates, lower c = trim (lower input)) ∨
      ∃ q ∈ scores ρ limits (trim (lower input)) candidates, ρ limits.minSimilarity ≤ q := by
  have h := isBestMatch_bestMatch? ρ limits input candidates
  generalize bestMatch? ρ limits input candidates = found at h ⊢
  cases h with
  | @agrees before after c split first agrees =>
    have hmem : c ∈ candidates := by simp [split]
    exact ⟨fun _ => .inl ⟨c, hmem, agrees⟩, fun _ => rfl⟩
  | @wins m disagree wins enough =>
    exact ⟨fun _ => .inr ⟨m.score, wins.greatest.1, not_lt.1 enough⟩, fun _ => rfl⟩
  | none disagree low =>
    refine ⟨nofun, ?_⟩
    rintro (⟨c, hc, hagrees⟩ | ⟨q, hq, henough⟩)
    · exact absurd hagrees (disagree c hc)
    · rcases low with hempty | ⟨greatest, hgreatest, hlow⟩
      · exact absurd hq (hempty ▸ Set.notMem_empty q)
      · exact absurd (henough.trans (hgreatest.2 hq)) (not_le.2 hlow)

/-- Limits within others: they allow as few edits or fewer, ask for as great a score or a greater
one, and count the same sound only if the others do. -/
structure Limits.Within (narrow wide : Limits) : Prop where
  distance : narrow.maxDistance ≤ wide.maxDistance
  similarity : wide.minSimilarity ≤ narrow.minSimilarity
  phonetic : narrow.usePhonetic = true → wide.usePhonetic = true

variable {narrow wide : Limits}

theorem Signal.Given.widen {signal : Signal} (hwithin : narrow.Within wide)
    (h : signal.Given narrow text candidate) : signal.Given wide text candidate := by
  cases signal with
  | near => exact h.trans hwithin.distance
  | sound => exact ⟨hwithin.phonetic h.1, h.2⟩
  | opening => exact h

/-- **Wider limits find a match wherever narrower ones do**, though it may be another one. -/
theorem bestMatch?_isSome_of_within (hρ : Monotone ρ) (hwithin : narrow.Within wide)
    (h : (bestMatch? ρ narrow input candidates).isSome = true) :
    (bestMatch? ρ wide input candidates).isSome = true := by
  rw [bestMatch?_isSome_iff] at h ⊢
  refine h.imp_right ?_
  rintro ⟨q, ⟨c, hc, signal, given, hscore⟩, henough⟩
  exact ⟨q, ⟨c, hc, signal, given.widen hwithin, hscore⟩, (hρ hwithin.similarity).trans henough⟩

end Restyle.Matching
