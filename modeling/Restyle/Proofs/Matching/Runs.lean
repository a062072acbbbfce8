import Restyle.Proofs.Matching.Comparison

/-!
# Runs of word characters

Other characters cut a text into runs of word characters, some of which may be empty.  A word stands
alone in a text if it is one of its runs.  The passes that put a text into the form in which it is
compared make no new runs: they leave out a run, or characters between two runs, but never join two.

* `runs` — the runs of a text.
* `mem_runs_of_standsAlone` — a word that stands alone is a run.
* `not_filler_of_mem_runs` — no run is a filler after fillers are left out.
* `dropFillers_of_runs` — a text without fillers stays as it is.
* `runs_squeezeChars`, `runs_dropPossessives`, `runs_trimChars` — passes that make no new runs.
-/

set_option autoImplicit false

namespace Restyle.Matching

open Restyle.Text

variable {run pending gap cs ds : List Char} {c : Char}

/-- The runs of a text that goes on after the word characters `pending`, last character first. -/
def runsFrom (pending : List Char) : List Char → List (List Char)
  | [] => [pending.reverse]
  | c :: rest =>
    if isWordChar c then runsFrom (c :: pending) rest else pending.reverse :: runsFrom [] rest

/-- The runs of word characters of a text. -/
def runs (cs : List Char) : List (List Char) := runsFrom [] cs

/-! ## The runs of a text -/

theorem runsFrom_cons_other (hc : isWordChar c = false) (pending cs : List Char) :
    runsFrom pending (c :: cs) = pending.reverse :: runs cs := by
  rw [runsFrom, hc]
  rfl

/-- No run goes on beyond a character that is no word character. -/
theorem runsFrom_append_cons (hc : isWordChar c = false) (pending cs ds : List Char) :
    runsFrom pending (cs ++ c :: ds) = runsFrom pending cs ++ runs ds := by
  induction cs generalizing pending with
  | nil => exact runsFrom_cons_other hc pending ds
  | cons d rest ih =>
    rw [List.cons_append, runsFrom, runsFrom]
    split
    · exact ih (d :: pending)
    · rw [ih [], List.cons_append]

theorem runs_append_cons (hc : isWordChar c = false) (cs ds : List Char) :
    runs (cs ++ c :: ds) = runs cs ++ runs ds :=
  runsFrom_append_cons hc [] cs ds

/-- Word characters are one run. -/
theorem runsFrom_of_word (h : ∀ c ∈ run, isWordChar c = true) (pending : List Char) :
    runsFrom pending run = [pending.reverse ++ run] := by
  induction run generalizing pending with
  | nil => rw [runsFrom, List.append_nil]
  | cons c rest ih =>
    obtain ⟨hc, hrest⟩ := List.forall_mem_cons.1 h
    rw [runsFrom, if_pos hc, ih hrest, List.reverse_cons, List.append_assoc, List.singleton_append]

/-- A word stands alone in a text: no word character is next to it. -/
def StandsAlone (word cs : List Char) : Prop :=
  ∃ before after, cs = before ++ word ++ after ∧
    (∀ c ∈ before.getLast?, isWordChar c = false) ∧ ∀ c ∈ after.head?, isWordChar c = false

/-- **A word that stands alone is a run.** -/
theorem mem_runs_of_standsAlone (hword : ∀ c ∈ run, isWordChar c = true)
    (h : StandsAlone run cs) : run ∈ runs cs := by
  obtain ⟨before, after, rfl, hbefore, hafter⟩ := h
  have hend : run ∈ runs (run ++ after) := by
    cases after with
    | nil =>
      rw [List.append_nil, runs, runsFrom_of_word hword]
      exact List.mem_singleton_self run
    | cons c rest =>
      rw [runs_append_cons (hafter c rfl), runs, runsFrom_of_word hword]
      exact List.mem_append_left _ (List.mem_singleton_self run)
  rw [List.append_assoc]
  cases before using List.reverseRecOn with
  | nil => exact hend
  | append_singleton front c =>
    have hc : isWordChar c = false := hbefore c List.getLast?_concat
    rw [List.append_assoc, List.singleton_append, runs_append_cons hc]
    exact List.mem_append_right _ hend

/-! ## Fillers -/

theorem isWordChar_of_mem_fillers : ∀ word ∈ fillers, ∀ c ∈ word.toList, isWordChar c = true := by
  decide +kernel

theorem keepRun_of_not_mem (h : String.ofList run ∉ fillers) : keepRun run = run := by
  rw [keepRun, if_neg]
  rwa [List.contains_iff_mem]

/-- What is left of a run is no filler. -/
theorem not_filler_of_mem_runs_keepRun (hword : ∀ c ∈ run, isWordChar c = true) :
    ∀ kept ∈ runs (keepRun run), String.ofList kept ∉ fillers := by
  by_cases hfiller : String.ofList run ∈ fillers
  · have hnone : keepRun run = [] := by rw [keepRun, if_pos (List.contains_iff_mem.2 hfiller)]
    rw [hnone]
    decide
  · rw [keepRun_of_not_mem hfiller, runs, runsFrom_of_word hword]
    exact List.forall_mem_singleton.2 hfiller

theorem not_filler_of_mem_runsFrom (hword : ∀ c ∈ pending, isWordChar c = true)
    (cs : List Char) :
    ∀ kept ∈ runs (dropFillersFrom pending cs), String.ofList kept ∉ fillers := by
  have hrun (pending : List Char) (h : ∀ c ∈ pending, isWordChar c = true) :
      ∀ c ∈ pending.reverse, isWordChar c = true := fun c hc => h c (List.mem_reverse.1 hc)
  induction cs generalizing pending with
  | nil => exact not_filler_of_mem_runs_keepRun (hrun pending hword)
  | cons c rest ih =>
    rw [dropFillersFrom]
    split
    · rename_i hc
      exact ih (List.forall_mem_cons.2 ⟨hc, hword⟩)
    · rename_i hc
      rw [runs_append_cons (by simpa using hc)]
      exact List.forall_mem_append.2
        ⟨not_filler_of_mem_runs_keepRun (hrun pending hword), ih (List.forall_mem_nil _)⟩

/-- **No run is a filler after fillers are left out.** -/
theorem not_filler_of_mem_runs (cs : List Char) :
    ∀ run ∈ runs (dropFillers cs), String.ofList run ∉ fillers :=
  not_filler_of_mem_runsFrom (List.forall_mem_nil _) cs

theorem dropFillersFrom_of_runs (h : ∀ run ∈ runsFrom pending cs, String.ofList run ∉ fillers) :
    dropFillersFrom pending cs = pending.reverse ++ cs := by
  induction cs generalizing pending with
  | nil =>
    rw [dropFillersFrom, List.append_nil]
    exact keepRun_of_not_mem (h _ List.mem_cons_self)
  | cons c rest ih =>
    rw [runsFrom] at h
    rw [dropFillersFrom]
    split
    · rename_i hc
      rw [if_pos hc] at h
      rw [ih h, List.reverse_cons, List.append_assoc, List.singleton_append]
    · rename_i hc
      rw [if_neg hc] at h
      obtain ⟨hrun, hrest⟩ := List.forall_mem_cons.1 h
      rw [keepRun_of_not_mem hrun, ih hrest]
      rfl

/-- **A text without fillers stays as it is.** -/
theorem dropFillers_of_runs (h : ∀ run ∈ runs cs, String.ofList run ∉ fillers) :
    dropFillers cs = cs :=
  dropFillersFrom_of_runs h

/-! ## Passes that make no new runs -/

theorem runsFrom_squeezeChars (pending cs : List Char) :
    runsFrom pending (squeezeChars cs) ⊆ runsFrom pending cs := by
  fun_induction squeezeChars cs generalizing pending with
  | case1 => exact List.Subset.refl _
  | case2 c hc =>
    rw [runsFrom_cons_other (isWordChar_of_isBlank hc),
      runsFrom_cons_other (isWordChar_of_isBlank (by decide : isBlank ' ' = true))]
    exact List.Subset.refl _
  | case3 c hc d rest hd ih =>
    refine List.Subset.trans (ih pending) ?_
    rw [runsFrom_cons_other (isWordChar_of_isBlank hd), runsFrom_cons_other (isWordChar_of_isBlank hc)]
    have hnext : runs (d :: rest) = [] :: runs rest :=
      runsFrom_cons_other (isWordChar_of_isBlank hd) [] rest
    rw [hnext]
    exact List.cons_subset_cons _ (List.subset_cons_self _ _)
  | case4 c hc d rest hd ih =>
    rw [runsFrom_cons_other (isWordChar_of_isBlank hc),
      runsFrom_cons_other (isWordChar_of_isBlank (by decide : isBlank ' ' = true))]
    exact List.cons_subset_cons _ (ih [])
  | case5 c rest hc ih =>
    rw [runsFrom, runsFrom]
    split
    · exact ih _
    · exact List.cons_subset_cons _ (ih [])

theorem runs_squeezeChars (cs : List Char) : runs (squeezeChars cs) ⊆ runs cs :=
  runsFrom_squeezeChars [] cs

theorem runsFrom_dropPossessives (pending cs : List Char) :
    runsFrom pending (dropPossessives cs) ⊆ runsFrom pending cs := by
  have hquote : isWordChar '\'' = false := by decide +kernel
  fun_induction dropPossessives cs generalizing pending with
  | case1 => exact List.Subset.refl _
  | case2 rest hend ih =>
    -- the ending is a run of its own, which is left out with the sign before it
    refine List.Subset.trans (ih pending) ?_
    have hs : isWordChar 's' = true := by decide +kernel
    rw [runsFrom_cons_other hquote, runs, runsFrom, if_pos hs]
    cases rest with
    | nil => exact List.cons_subset_cons _ (List.nil_subset _)
    | cons c rest =>
      have hc : isWordChar c = false := by simpa [atWordEnd] using hend
      rw [runsFrom_cons_other hc, runsFrom_cons_other hc]
      exact List.cons_subset_cons _ (List.subset_cons_self _ _)
  | case3 rest hend ih =>
    rw [runsFrom_cons_other hquote, runsFrom_cons_other hquote, runs, runs, runsFrom, runsFrom]
    split
    · exact List.cons_subset_cons _ (ih _)
    · exact List.cons_subset_cons _ (List.cons_subset_cons _ (ih _))
  | case4 c rest _ ih =>
    rw [runsFrom, runsFrom]
    split
    · exact ih _
    · exact List.cons_subset_cons _ (ih [])

theorem runs_dropPossessives (cs : List Char) : runs (dropPossessives cs) ⊆ runs cs :=
  runsFrom_dropPossessives [] cs

theorem runs_trimChars (cs : List Char) : runs (trimChars cs) ⊆ runs cs := by
  obtain ⟨front, back, hfront, hback, hcs⟩ := exists_gaps cs
  have hend : runs (trimChars cs) ⊆ runs (trimChars cs ++ back) := by
    cases back with
    | nil =>
      rw [List.append_nil]
      exact List.Subset.refl _
    | cons c rest =>
      rw [runs_append_cons (isWordChar_of_isBlank (hback c List.mem_cons_self))]
      exact List.subset_append_left _ _
  have hall : runs cs = runs (front ++ (trimChars cs ++ back)) := by
    rw [← List.append_assoc, ← hcs]
  rw [hall]
  cases front using List.reverseRecOn with
  | nil => exact hend
  | append_singleton gap c =>
    have hc : isBlank c = true := hfront c (by simp)
    rw [List.append_assoc, List.singleton_append, runs_append_cons (isWordChar_of_isBlank hc)]
    exact List.subset_append_of_subset_right _ hend

end Restyle.Matching
