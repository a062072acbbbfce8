import Restyle.Proofs.Text.Rows

/-!
# White space made single spaces

Where every run of white space is made one space, no two characters of white space are next to each
other.  A text that is squeezed so consists of its words with single spaces.  If some of the words are
then emptied, there are two spaces next to each other where one stood, unless only empty words are
before it or behind it, and the spaces are trimmed off.

* `squeezeChars_cons_space` — a squeezed text from its words.
* `HasDoubledBlank` — white space next to white space.
* `not_hasDoubledBlank_squeezeChars`, `squeezeChars_of_not` — squeezed texts, and what is one.
* `hasDoubledBlank_trimChars_spaced` — words between which there are two spaces.
-/

set_option autoImplicit false

namespace Restyle.Text

variable {c d : Char} {cs before after : List Char} {ws : List (List Char)}

/-! ## Squeezing a text -/

theorem squeezeChars_cons_solid (hc : isBlank c = false) (cs : List Char) :
    squeezeChars (c :: cs) = c :: squeezeChars cs := by
  cases cs with
  | nil => simp [squeezeChars, hc]
  | cons d rest => rw [squeezeChars, if_neg (by simp [hc])]

theorem squeezeChars_cons_cons (hc : isBlank c = true) (d : Char) (cs : List Char) :
    squeezeChars (c :: d :: cs) =
      if isBlank d then squeezeChars (d :: cs) else ' ' :: squeezeChars (d :: cs) := by
  rw [squeezeChars, if_pos hc]

theorem isBlank_space : isBlank ' ' = true := by decide

/-- Words with a space before each. -/
def spaced (ws : List (List Char)) : List Char := ws.flatMap (' ' :: ·)

theorem spaced_cons (w : List Char) (ws : List (List Char)) :
    spaced (w :: ws) = ' ' :: (w ++ spaced ws) := by
  rw [spaced, List.flatMap_cons, List.cons_append, spaced]

theorem spaced_append (us ws : List (List Char)) : spaced (us ++ ws) = spaced us ++ spaced ws :=
  List.flatMap_append

/-- **A text is squeezed to its words**, with a space before each and perhaps one at the end. -/
theorem squeezeChars_cons_space (cs : List Char) : ∃ gap, (∀ c ∈ gap, isBlank c = true) ∧
    squeezeChars (' ' :: cs) = spaced (wordChars cs) ++ gap := by
  induction cs with
  | nil => exact ⟨[' '], List.forall_mem_singleton.2 isBlank_space, by decide⟩
  | cons c rest ih =>
    obtain ⟨gap, hgap, hrest⟩ := ih
    cases wordChars_cases c rest with
    | blank hc said =>
      refine ⟨gap, hgap, ?_⟩
      rw [squeezeChars_cons_cons isBlank_space, if_pos hc, said, ← hrest]
      cases rest with
      | nil => simp [squeezeChars, hc, isBlank_space]
      | cons d rest => rw [squeezeChars_cons_cons hc, squeezeChars_cons_cons isBlank_space]
    | alone hc apart said =>
      rw [squeezeChars_cons_cons isBlank_space, if_neg (by simp [hc]), squeezeChars_cons_solid hc,
        said]
      cases rest with
      | nil => exact ⟨[], List.forall_mem_nil _, rfl⟩
      | cons d rest =>
        have hd : isBlank d = true := by simpa [startsWord] using apart
        rw [squeezeChars_cons_cons isBlank_space, if_pos hd] at hrest
        refine ⟨gap, hgap, ?_⟩
        rw [hrest]
        rfl
    | joins hc begun w ws after said =>
      cases rest with
      | nil => cases begun
      | cons d rest =>
        have hd : ¬isBlank d = true := by simpa [startsWord] using begun
        rw [squeezeChars_cons_cons isBlank_space, if_neg hd, after, spaced_cons,
          List.cons_append] at hrest
        refine ⟨gap, hgap, ?_⟩
        rw [squeezeChars_cons_cons isBlank_space, if_neg (by simp [hc]),
          squeezeChars_cons_solid hc, said, (List.cons.inj hrest).2]
        rfl

/-! ## White space next to white space -/

/-- Two characters of white space are next to each other. -/
def HasDoubledBlank (cs : List Char) : Prop :=
  ∃ c d, isBlank c = true ∧ isBlank d = true ∧ [c, d] <:+: cs

theorem not_hasDoubledBlank_nil : ¬HasDoubledBlank [] := by
  rintro ⟨c, d, -, -, h⟩
  cases List.infix_nil.1 h

theorem hasDoubledBlank_cons : HasDoubledBlank (c :: cs) ↔
    (isBlank c = true ∧ ∃ d ∈ cs.head?, isBlank d = true) ∨ HasDoubledBlank cs := by
  constructor
  · rintro ⟨a, b, ha, hb, h⟩
    rcases List.infix_cons_iff.1 h with hfront | hrest
    · obtain ⟨rest, hrest⟩ := hfront
      obtain ⟨rfl, rfl⟩ := List.cons.inj hrest
      exact .inl ⟨ha, b, rfl, hb⟩
    · exact .inr ⟨a, b, ha, hb, hrest⟩
  · rintro (⟨hc, d, hd, hblank⟩ | ⟨a, b, ha, hb, h⟩)
    · obtain ⟨rest, rfl⟩ := List.head?_eq_some_iff.1 hd
      exact ⟨c, d, hc, hblank, [], rest, rfl⟩
    · exact ⟨a, b, ha, hb, h.trans (List.suffix_cons c cs).isInfix⟩

theorem HasDoubledBlank.of_trimChars (h : HasDoubledBlank (trimChars cs)) : HasDoubledBlank cs := by
  obtain ⟨c, d, hc, hd, hinfix⟩ := h
  exact ⟨c, d, hc, hd, hinfix.trans (trimChars_isInfix cs)⟩

/-- **Squeezed text has single spaces.** -/
theorem not_hasDoubledBlank_squeezeChars (cs : List Char) : ¬HasDoubledBlank (squeezeChars cs) := by
  fun_induction squeezeChars cs with
  | case1 => exact not_hasDoubledBlank_nil
  | case2 c hc =>
    rw [hasDoubledBlank_cons]
    rintro (⟨-, d, hd, -⟩ | h)
    · cases hd
    · exact not_hasDoubledBlank_nil h
  | case3 c hc d rest hd ih => exact ih
  | case4 c hc d rest hd ih =>
    rw [Bool.not_eq_true] at hd
    rw [hasDoubledBlank_cons]
    rintro (⟨-, e, he, hblank⟩ | h)
    · rw [squeezeChars_cons_solid hd] at he
      obtain rfl := Option.some.inj he
      rw [hd] at hblank
      cases hblank
    · exact ih h
  | case5 c rest hc ih =>
    rw [hasDoubledBlank_cons]
    rintro (⟨hblank, -⟩ | h)
    · exact hc hblank
    · exact ih h

/-- A text with single spaces stays as it is. -/
theorem squeezeChars_of_not (hspace : ∀ c ∈ cs, isBlank c = true → c = ' ')
    (h : ¬HasDoubledBlank cs) : squeezeChars cs = cs := by
  fun_induction squeezeChars cs with
  | case1 => rfl
  | case2 c hc => rw [hspace c List.mem_cons_self hc]
  | case3 c hc d rest hd ih =>
    exact absurd (hasDoubledBlank_cons.2 (.inl ⟨hc, d, rfl, hd⟩)) h
  | case4 c hc d rest hd ih =>
    rw [ih (fun e he => hspace e (List.mem_cons_of_mem c he))
      fun hrest => h (hasDoubledBlank_cons.2 (.inr hrest)), hspace c List.mem_cons_self hc]
  | case5 c rest hc ih =>
    rw [ih (fun e he => hspace e (List.mem_cons_of_mem c he))
      fun hrest => h (hasDoubledBlank_cons.2 (.inr hrest))]

/-! ## Words of which some are empty -/

theorem mem_spaced (h : c ∈ spaced ws) : c = ' ' ∨ ∃ w ∈ ws, c ∈ w := by
  obtain ⟨w, hw, hc⟩ := List.mem_flatMap.1 h
  exact (List.mem_cons.1 hc).imp_right fun hmem => ⟨w, hw, hmem⟩

/-- What is no white space stands in a word. -/
theorem exists_ne_nil_of_mem_spaced (hc : isBlank c = false) (h : c ∈ spaced ws) :
    ∃ w ∈ ws, w ≠ [] := by
  rcases mem_spaced h with rfl | ⟨w, hw, hcw⟩
  · rw [isBlank_space] at hc
    cases hc
  · exact ⟨w, hw, List.ne_nil_of_mem hcw⟩

theorem exists_solid_of_ne_nil (hsolid : ∀ w ∈ ws, ∀ c ∈ w, isBlank c = false)
    (h : ∃ w ∈ ws, w ≠ []) : ∃ c ∈ spaced ws, isBlank c = false := by
  obtain ⟨w, hw, hne⟩ := h
  obtain ⟨c, rest, rfl⟩ := List.exists_cons_of_ne_nil hne
  refine ⟨c, List.mem_flatMap.2 ⟨_, hw, ?_⟩, hsolid _ hw c List.mem_cons_self⟩
  exact List.mem_cons_of_mem _ List.mem_cons_self

/-- Where white space is next to white space, there is nothing of a word between. -/
theorem spaced_eq_append (hsolid : ∀ w ∈ ws, ∀ c ∈ w, isBlank c = false)
    (hc : isBlank c = true) (hd : isBlank d = true)
    (h : spaced ws = before ++ c :: d :: after) :
    ∃ us vs, ws = us ++ [] :: vs ∧ before = spaced us ∧ d :: after = spaced vs := by
  induction ws generalizing before with
  | nil => simp [spaced] at h
  | cons w ws ih =>
    obtain ⟨hw, hws⟩ := List.forall_mem_cons.1 hsolid
    rw [spaced_cons] at h
    cases before with
    | nil =>
      obtain ⟨rfl, hrest⟩ := List.cons.inj h
      cases w with
      | nil => exact ⟨[], ws, rfl, rfl, hrest.symm⟩
      | cons e w =>
        obtain ⟨rfl, -⟩ := List.cons.inj hrest
        rw [hw e List.mem_cons_self] at hd
        cases hd
    | cons b before =>
      obtain ⟨rfl, hrest⟩ := List.cons.inj h
      rcases List.append_eq_append_iff.1 hrest with ⟨tail, rfl, htail⟩ | ⟨tail, hsplit, htail⟩
      · obtain ⟨us, vs, rfl, rfl, hvs⟩ := ih hws htail
        exact ⟨w :: us, vs, rfl, (spaced_cons w us).symm, hvs⟩
      · cases tail with
        | nil =>
          rw [List.append_nil] at hsplit
          have hnext : spaced ws = [] ++ c :: d :: after := htail.symm
          obtain ⟨us, vs, rfl, hus, hvs⟩ := ih hws hnext
          refine ⟨w :: us, vs, rfl, ?_, hvs⟩
          rw [spaced_cons, ← hus, List.append_nil, hsplit]
        | cons e tail =>
          -- white space does not stand within a word
          obtain ⟨rfl, -⟩ := List.cons.inj htail
          rw [hw c (by simp [hsplit])] at hc
          cases hc

/-- Trimming stops at the first and at the last character that is no white space. -/
theorem trimChars_append (hc : c ∈ cs) (hsolid : isBlank c = false) (ds : List Char)
    (h : trimEndChars ds ≠ []) : trimChars (cs ++ ds) = cs.dropWhile isBlank ++ trimEndChars ds := by
  have hne : (cs.dropWhile isBlank).isEmpty = false := by
    rw [List.isEmpty_eq_false_iff]
    intro hnil
    rw [List.dropWhile_eq_nil_iff.1 hnil c hc] at hsolid
    cases hsolid
  rw [trimChars, List.dropWhile_append, hne]
  exact trimEndChars_append h

theorem trimEndChars_ne_nil_of_mem (hc : c ∈ cs) (hsolid : isBlank c = false) :
    trimEndChars cs ≠ [] := by
  obtain ⟨before, after, rfl⟩ := List.append_of_mem hc
  rw [trimEndChars_append (trimEndChars_ne_nil hsolid after)]
  exact List.append_ne_nil_of_right_ne_nil _ (trimEndChars_ne_nil hsolid after)

/-- Two spaces that trimming leaves stand for an empty word, and something stands on both sides. -/
theorem exists_words_of_hasDoubledBlank (hsolid : ∀ w ∈ ws, ∀ c ∈ w, isBlank c = false)
    (h : HasDoubledBlank (trimChars (spaced ws))) :
    ∃ us vs, ws = us ++ [] :: vs ∧ (∃ u ∈ us, u ≠ []) ∧ ∃ v ∈ vs, v ≠ [] := by
  obtain ⟨c, d, hc, hd, before, after, htrim⟩ := h
  obtain ⟨front, back, -, -, hspaced⟩ := exists_gaps (spaced ws)
  have htrimmed := trimmed_trimChars (spaced ws)
  rw [← htrim] at hspaced htrimmed
  have hparts : spaced ws = (front ++ before) ++ c :: d :: (after ++ back) := by
    simpa using hspaced
  obtain ⟨us, vs, rfl, hus, hvs⟩ := spaced_eq_append hsolid hc hd hparts
  refine ⟨us, vs, rfl, ?_, ?_⟩
  · cases before with
    | nil =>
      rw [htrimmed.head c rfl] at hc
      cases hc
    | cons e before =>
      refine exists_ne_nil_of_mem_spaced (htrimmed.head e rfl) ?_
      rw [← hus]
      simp
  · cases after using List.reverseRecOn with
    | nil =>
      rw [htrimmed.last d (by simp)] at hd
      cases hd
    | append_singleton after e =>
      have hlast : [e] <:+ before ++ [c, d] ++ (after ++ [e]) :=
        (List.suffix_append after [e]).trans (List.suffix_append _ _)
      refine exists_ne_nil_of_mem_spaced (htrimmed.last_of_suffix hlast e rfl) ?_
      rw [← hvs]
      simp

/-- Behind an empty word something of a word stands after two spaces, so that both are kept. -/
theorem trimEndChars_spaced_nil_cons (hsolid : ∀ v ∈ ws, ∀ c ∈ v, isBlank c = false)
    (h : ∃ v ∈ ws, v ≠ []) :
    ∃ rest, trimEndChars (spaced ([] :: ws)) = ' ' :: ' ' :: rest := by
  obtain ⟨f, hf, hfSolid⟩ := exists_solid_of_ne_nil hsolid h
  cases ws with
  | nil => cases hf
  | cons v vs =>
    have htail : f ∈ v ++ spaced vs := by
      rw [spaced_cons] at hf
      refine (List.mem_cons.1 hf).resolve_left ?_
      rintro rfl
      rw [isBlank_space] at hfSolid
      cases hfSolid
    have hboth : trimEndChars ([' ', ' '] ++ (v ++ spaced vs)) =
        [' ', ' '] ++ trimEndChars (v ++ spaced vs) :=
      trimEndChars_append (trimEndChars_ne_nil_of_mem htail hfSolid)
    refine ⟨trimEndChars (v ++ spaced vs), ?_⟩
    rw [spaced_cons, spaced_cons]
    exact hboth

/-- **Two spaces are next to each other where an empty word stands between others** that are not
empty: at both ends spaces are trimmed off. -/
theorem hasDoubledBlank_trimChars_spaced (hsolid : ∀ w ∈ ws, ∀ c ∈ w, isBlank c = false) :
    HasDoubledBlank (trimChars (spaced ws)) ↔
      ∃ us vs, ws = us ++ [] :: vs ∧ (∃ u ∈ us, u ≠ []) ∧ ∃ v ∈ vs, v ≠ [] := by
  constructor
  · exact exists_words_of_hasDoubledBlank hsolid
  · rintro ⟨us, vs, rfl, hus, hvs⟩
    rw [List.forall_mem_append, List.forall_mem_cons] at hsolid
    obtain ⟨husSolid, -, hvsSolid⟩ := hsolid
    obtain ⟨e, he, heSolid⟩ := exists_solid_of_ne_nil husSolid hus
    obtain ⟨rest, hend⟩ := trimEndChars_spaced_nil_cons hvsSolid hvs
    rw [spaced_append, trimChars_append he heSolid _ (by simp [hend]), hend]
    exact ⟨' ', ' ', isBlank_space, isBlank_space, _, rest, List.append_assoc _ _ _⟩

end Restyle.Text
