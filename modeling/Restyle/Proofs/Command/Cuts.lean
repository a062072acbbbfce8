import Restyle.Proofs.Command.Origin

/-!
# Cuts of a phrase

Where no "to" says where the target ends, a phrase is cut into target and value at one of its
words, and a "more" or "less" at the cut becomes the direction if the value is left with a word.
So there is one cut for each number of words of the target, and each is the whole phrase.  The
value decides which of them is made.

* `IsCut` — the ways to cut a phrase.
* `isCut_iff` — they differ in the number of words of the target.
* `IsShortest` — the cut with the shortest target that leaves a value that can be applied.
* `ofPhrase_eq_iff` — a phrase without "to" is cut there.
-/

set_option autoImplicit false

namespace Restyle.Command

variable {ws : Phrase} {s t : Split} {k : Nat}

/-! ## One cut for each target -/

/-- A target, the direction if there is one, and a value are all the words of a phrase, in their
order. -/
structure IsCut (ws : Phrase) (s : Split) : Prop where
  named : s.target ≠ []
  told : s.value ≠ []
  whole : ∃ said : Phrase, ws = s.target ++ said ++ s.value ∧
    said.map Word.lowered = s.direction.toList.map Direction.name
  /-- A value of several words has no "more" or "less" in front, unless one is taken off already. -/
  taken : s.direction = none → ∀ w v rest, s.value = w :: v :: rest → w.lowered ∉ ["more", "less"]

/-- What is taken off the front of a value. -/
theorem takeDirection_spec (ws : Phrase) :
    (∃ said : Phrase, ws = said ++ (Split.takeDirection ws).2 ∧
      said.map Word.lowered = (Split.takeDirection ws).1.toList.map Direction.name) ∧
    ((Split.takeDirection ws).1 = none → ∀ w v rest, (Split.takeDirection ws).2 = w :: v :: rest →
      w.lowered ∉ ["more", "less"]) := by
  cases takeDirection_cases ws with
  | taken w rest direction present phrase said cut =>
    rw [cut]
    exact ⟨⟨[w], phrase, by simp [said]⟩, nofun⟩
  | kept free cut =>
    rw [cut]
    exact ⟨⟨[], rfl, rfl⟩, fun _ => free⟩

theorem takeDirection_of_said {w : Word} {d : Direction} (hw : w.lowered = d.name) (hne : ws ≠ []) :
    Split.takeDirection (w :: ws) = (some d, ws) := by
  obtain ⟨v, rest, rfl⟩ := List.exists_cons_of_ne_nil hne
  cases d with
  | more =>
    have hmore : w.lowered = "more" := hw
    simp [Split.takeDirection, hmore]
  | less =>
    have hless : w.lowered = "less" := hw
    simp [Split.takeDirection, hless]

theorem isCut_atWord (h : k + 1 < ws.length) : IsCut ws (Split.atWord ws (k + 1)) where
  named := (atWord_parts h).named
  told := (atWord_parts h).told
  whole := by
    obtain ⟨⟨said, hwhole, hsaid⟩, -⟩ := takeDirection_spec (ws.drop (k + 1))
    refine ⟨said, ?_, hsaid⟩
    calc ws = ws.take (k + 1) ++ ws.drop (k + 1) := (List.take_append_drop (k + 1) ws).symm
      _ = ws.take (k + 1) ++ (said ++ (Split.takeDirection (ws.drop (k + 1))).2) :=
          congrArg _ hwhole
      _ = _ := (List.append_assoc _ _ _).symm
  taken := (takeDirection_spec (ws.drop (k + 1))).2

/-- What a cut leaves behind its target says what the direction and the value are. -/
theorem IsCut.eq_atWord (h : IsCut ws s) : s = Split.atWord ws s.target.length := by
  obtain ⟨target, direction, value⟩ := s
  obtain ⟨said, hwhole, hsaid⟩ := h.whole
  have htold : value ≠ [] := h.told
  dsimp only at hwhole hsaid ⊢
  have htarget : ws.take target.length = target := by simp [hwhole]
  have hrest : ws.drop target.length = said ++ value := by simp [hwhole]
  have htaken : Split.takeDirection (said ++ value) = (direction, value) := by
    cases direction with
    | none =>
      have hnone : said = [] := by simpa using hsaid
      rw [hnone, List.nil_append]
      exact takeDirection_of_free (h.taken rfl)
    | some d =>
      obtain ⟨w, hone, hw⟩ : ∃ w, said = [w] ∧ w.lowered = d.name := by
        simpa [List.map_eq_singleton_iff] using hsaid
      rw [hone, List.singleton_append]
      exact takeDirection_of_said hw htold
  rw [Split.atWord, htarget, hrest, htaken]

/-- **The cuts of a phrase are those after each of its words** but the last. -/
theorem isCut_iff : IsCut ws s ↔ ∃ k, k + 1 < ws.length ∧ s = Split.atWord ws (k + 1) := by
  constructor
  · intro h
    obtain ⟨said, hwhole, -⟩ := h.whole
    have hnamed := List.length_pos_iff.2 h.named
    have htold := List.length_pos_iff.2 h.told
    have hlength : ws.length = s.target.length + said.length + s.value.length := by
      rw [hwhole, List.length_append, List.length_append]
    refine ⟨s.target.length - 1, by omega, ?_⟩
    rw [Nat.sub_add_cancel hnamed]
    exact h.eq_atWord
  · rintro ⟨k, hk, rfl⟩
    exact isCut_atWord hk

theorem IsCut.eq_of_length (hs : IsCut ws s) (ht : IsCut ws t)
    (h : s.target.length = t.target.length) : s = t := by
  rw [hs.eq_atWord, ht.eq_atWord, h]

/-! ## The cut that is made -/

/-- The cut with the shortest target of those that leave a value that can be applied, and a target
of one word if there is none. -/
structure IsShortest (ws : Phrase) (s : Split) : Prop where
  cut : IsCut ws s
  least : ∀ t, IsCut ws t → t.hasValuePhrase = true →
    s.hasValuePhrase = true ∧ s.target.length ≤ t.target.length
  single : (∀ t, IsCut ws t → t.hasValuePhrase = false) → s.target.length = 1

theorem IsShortest.unique (hs : IsShortest ws s) (ht : IsShortest ws t) : s = t := by
  refine hs.cut.eq_of_length ht.cut ?_
  by_cases happlied : ∃ u, IsCut ws u ∧ u.hasValuePhrase = true
  · obtain ⟨u, hu, hvalue⟩ := happlied
    have hst := (hs.least t ht.cut (ht.least u hu hvalue).1).2
    have hts := (ht.least s hs.cut (hs.least u hu hvalue).1).2
    omega
  · have hnone (u : Split) (hu : IsCut ws u) : u.hasValuePhrase = false := by
      rw [← Bool.not_eq_true]
      exact fun hvalue => happlied ⟨u, hu, hvalue⟩
    rw [hs.single hnone, ht.single hnone]

theorem length_target_atWord (h : k < ws.length) : (Split.atWord ws k).target.length = k := by
  simp only [Split.atWord, List.length_take]
  omega

/-- The search goes through the cuts from the shortest target on, and comes back to the first one
if it finds none. -/
theorem byValue_cases (ws : Phrase) :
    (∃ k, k + 1 < ws.length ∧ Split.byValue ws = Split.atWord ws (k + 1) ∧
      (Split.atWord ws (k + 1)).hasValuePhrase = true ∧
      ∀ j < k, (Split.atWord ws (j + 1)).hasValuePhrase = false) ∨
    (Split.byValue ws = Split.atWord ws 1 ∧
      ∀ j, j + 1 < ws.length → (Split.atWord ws (j + 1)).hasValuePhrase = false) := by
  unfold Split.byValue
  dsimp only
  rw [List.find?_map]
  cases hfound : (List.range (ws.length - 1)).find?
      (Split.hasValuePhrase ∘ fun k => Split.atWord ws (k + 1)) with
  | none =>
    rw [List.find?_range_eq_none] at hfound
    refine .inr ⟨rfl, fun j hj => ?_⟩
    simpa using hfound j (by omega)
  | some k =>
    rw [List.find?_range_eq_some] at hfound
    obtain ⟨hvalue, hk, hbefore⟩ := hfound
    have hlt := List.mem_range.1 hk
    refine .inl ⟨k, by omega, rfl, hvalue, fun j hj => ?_⟩
    simpa using hbefore j hj

theorem isShortest_byValue (h : 2 ≤ ws.length) : IsShortest ws (Split.byValue ws) := by
  rcases byValue_cases ws with ⟨k, hk, hcut, hvalue, hbefore⟩ | ⟨hcut, hnone⟩
  · rw [hcut]
    refine ⟨isCut_atWord hk, ?_, ?_⟩
    · intro t ht htvalue
      obtain ⟨j, hj, rfl⟩ := isCut_iff.1 ht
      have hle : k ≤ j := by
        refine Nat.le_of_not_lt fun hlt => ?_
        rw [hbefore j hlt] at htvalue
        cases htvalue
      refine ⟨hvalue, ?_⟩
      rw [length_target_atWord hk, length_target_atWord hj]
      omega
    · intro hother
      rw [hother _ (isCut_atWord hk)] at hvalue
      cases hvalue
  · rw [hcut]
    refine ⟨isCut_atWord h, ?_, fun _ => length_target_atWord h⟩
    intro t ht htvalue
    obtain ⟨j, hj, rfl⟩ := isCut_iff.1 ht
    rw [hnone j hj] at htvalue
    cases htvalue

/-- **A phrase without "to" is cut into all its words**, and of the cuts there are it is the one
with the shortest target that leaves a value that can be applied, or else the one whose target is
a single word. -/
theorem ofPhrase_eq_iff (h : 2 ≤ ws.length)
    (hto : Phrase.splitAround? [["to", "be"], ["to"]] ws = none) (s : Split) :
    Split.ofPhrase ws = s ↔ IsShortest ws s := by
  have hshortest : IsShortest ws (Split.ofPhrase ws) := by
    unfold Split.ofPhrase
    rw [hto]
    exact isShortest_byValue h
  constructor
  · rintro rfl
    exact hshortest
  · exact hshortest.unique

/-- The corners of the card are to be more rounded. -/
theorem ofPhrase_eq_corners :
    2 ≤ (Phrase.ofText "card corners more rounded").length ∧
      Phrase.splitAround? [["to", "be"], ["to"]] (Phrase.ofText "card corners more rounded") = none ∧
      IsShortest (Phrase.ofText "card corners more rounded")
        ⟨Phrase.ofText "card corners", some .more, Phrase.ofText "rounded"⟩ := by
  have hlength : 2 ≤ (Phrase.ofText "card corners more rounded").length := by decide +kernel
  have hto : Phrase.splitAround? [["to", "be"], ["to"]] (Phrase.ofText "card corners more rounded") =
      none := by decide +kernel
  exact ⟨hlength, hto, (ofPhrase_eq_iff hlength hto _).1 (by decide +kernel)⟩

end Restyle.Command
