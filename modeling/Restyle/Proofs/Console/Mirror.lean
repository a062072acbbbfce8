import Restyle.Console.Basic
import Restyle.Proofs.Interpreter.Mirrored
import Restyle.Proofs.Sync.Files

/-!
# The theme file mirrors the session

A console with a key keeps its themes in the file of the key.  However the lines come and
whenever the timer goes off in between, at the end nothing waits, and the file has its earlier
content merged with the entries of all tokens that commands changed, each with the value that
the store holds.

* `Kept` — what the folder has and what waits, after some assignments.
* `mirrors_accept`, `mirrors_acceptAll` — the invariant of a run.
* `theme_file_mirrors_session` — the file after a run.
-/

set_option autoImplicit false

namespace Restyle

open Restyle.Assoc Restyle.Document Restyle.Interpreter Restyle.Store Restyle.Sync Restyle.Target

variable {folder : Folder} {key : String}

/-! ## The file -/

/-- A folder after a theme went to the file of a key; for an empty theme nothing is written. -/
def Sync.Folder.keep (folder : Folder) (key : String) (theme : Theme) : Folder :=
  if theme.isEmpty then folder else folder.write key theme

theorem load_keep (folder : Folder) (key : String) (theme : Theme) :
    (folder.keep key theme).load key = mergeFields (folder.load key) theme := by
  unfold Folder.keep
  split
  · rename_i he
    rw [List.isEmpty_iff.1 he, mergeFields_nil]
  · exact load_write folder key theme

theorem keep_of_ne_nil {l : List Assignment} (h : l ≠ []) (folder : Folder) (key : String) :
    folder.keep key (patchOf [] l) = folder.write key (patchOf [] l) := by
  rw [Folder.keep, if_neg]
  rw [List.isEmpty_iff]
  exact patchOf_ne_nil h []

/-- Patches that are written one after another are written as one. -/
theorem keep_keep {l m : List Assignment} (hl : ∀ a ∈ l, a.definition ∈ styled)
    (hm : ∀ a ∈ m, a.definition ∈ styled) :
    (folder.keep key (patchOf [] l)).keep key (patchOf [] m) =
      folder.keep key (patchOf [] (l ++ m)) := by
  by_cases hl0 : l = []
  · subst hl0
    rfl
  by_cases hm0 : m = []
  · subst hm0
    rw [List.append_nil]
    rfl
  rw [keep_of_ne_nil hl0, keep_of_ne_nil hm0, keep_of_ne_nil (by simp [hl0]), Folder.write,
    load_write, Folder.write, put_put, Folder.write, mergeFields_patchOf hl,
    mergeFields_patchOf hm, mergeFields_patchOf (List.forall_mem_append.2 ⟨hl, hm⟩), patchOf_append]

/-! ## The scheduler -/

/-- What a scheduler that serves one key has come to: the assignments that were written, and
those that wait. -/
structure Kept (folder : Folder) (key : String) (written waiting : List Assignment)
    (s : Scheduler) : Prop where
  styled : ∀ a ∈ written ++ waiting, a.definition ∈ styled
  collected : s.collected = if waiting = [] then [] else [(key, patchOf [] waiting)]
  sink : s.sink = { folder := some (folder.keep key (patchOf [] written)) }

variable {s : Scheduler} {written waiting : List Assignment}

theorem kept_start (callbacks : List Callback) (nextHandle : Nat) :
    Kept folder key [] [] { callbacks, nextHandle, sink := { folder := some folder } } where
  styled := by simp
  collected := rfl
  sink := rfl

theorem Kept.pending (h : Kept folder key written waiting s) :
    (s.pending? key).getD [] = patchOf [] waiting := by
  rw [Scheduler.pending?, h.collected]
  split
  · rename_i hw
    rw [hw]
    rfl
  · simp [get?_cons]

theorem kept_schedule (h : Kept folder key written waiting s) {l : List Assignment}
    (hl : ∀ a ∈ l, a.definition ∈ Target.styled) (hne : l ≠ []) :
    Kept folder key written (waiting ++ l) (s.schedule key (patchOf [] l) false).1 where
  styled := by
    rw [← List.append_assoc]
    exact List.forall_mem_append.2 ⟨h.styled, hl⟩
  collected := by
    rw [Scheduler.schedule, h.pending, mergeFields_patchOf hl, ← patchOf_append]
    simp only [Bool.false_eq_true, if_false, Scheduler.stopTimer, h.collected]
    rw [if_neg (show waiting ++ l ≠ [] by simp [hne])]
    split
    · rfl
    · simp [put]
  sink := by
    simp only [Scheduler.schedule, Bool.false_eq_true, if_false, Scheduler.stopTimer, h.sink]

/-- Writing what waits for the key. -/
theorem Kept.write (h : Kept folder key written waiting s) (hne : waiting ≠ []) :
    s.sink.write key (patchOf [] waiting) =
      .ok { folder := some (folder.keep key (patchOf [] (written ++ waiting))) } := by
  obtain ⟨hw, hm⟩ := List.forall_mem_append.1 h.styled
  rw [h.sink, ← keep_keep hw hm, keep_of_ne_nil hne]
  rfl

/-- The timer of any key goes off. -/
theorem kept_fire (h : Kept folder key written waiting s) (k : String) :
    ∃ written' waiting', written' ++ waiting' = written ++ waiting ∧
      Kept folder key written' waiting' (s.fire k).1 := by
  unfold Scheduler.fire Scheduler.flushKey
  cases hp : s.pending? k with
  | none => exact ⟨written, waiting, rfl, h.styled, h.collected, h.sink⟩
  | some patch =>
    rw [Scheduler.pending?, h.collected] at hp
    split at hp
    · cases hp
    · rename_i hne
      rw [get?_cons] at hp
      split at hp
      · rename_i hk
        cases hp
        subst hk
        refine ⟨written ++ waiting, [], List.append_nil _, ?_⟩
        have hwrite : (s.release k).sink.write k (patchOf [] waiting) =
            .ok { folder := some (folder.keep k (patchOf [] (written ++ waiting))) } := h.write hne
        dsimp only
        rw [Scheduler.perform, hwrite]
        refine ⟨by simpa using h.styled, ?_, rfl⟩
        simp [Scheduler.release, erase, h.collected, hne]
      · cases hp

/-- The end of a run. -/
theorem kept_shutdown (h : Kept folder key written waiting s) :
    (s.shutdown true).1.collected = [] ∧ (s.shutdown true).1.timers = [] ∧
      (s.shutdown true).1.sink.folder =
        some (folder.keep key (patchOf [] (written ++ waiting))) := by
  refine ⟨rfl, rfl, ?_⟩
  simp only [Scheduler.shutdown, if_true, Scheduler.flushAll]
  rw [h.collected]
  split
  · rename_i hw
    subst hw
    rw [Scheduler.performAll, h.sink, List.append_nil]
  · rename_i hne
    have hwrite := h.write hne
    simp only [Scheduler.performAll, Scheduler.perform]
    rw [hwrite]

/-! ## Lines and timers -/

/-- What a line without a fault comes to: a command with its result, or nothing that matters to
the session. -/
theorem handle_cases {c : Console} {line : String} {b : Bool}
    (h : (c.handle line).outcome = .ok b) :
    (c.handle line).console.persistKey = c.persistKey ∧
    (((c.handle line).results = [] ∧ (c.handle line).console.session = c.session) ∨
      ∃ request selection r, (c.session.serve request selection c.persistKey).outcome = .ok r ∧
        (c.handle line).results = [r] ∧
        (c.handle line).console.session =
          (c.session.serve request selection c.persistKey).session) := by
  unfold Console.handle at h ⊢
  dsimp only at h ⊢
  split
  · exact ⟨rfl, .inl ⟨rfl, rfl⟩⟩
  · split
    · exact ⟨rfl, .inl ⟨rfl, rfl⟩⟩
    · split
      · exact ⟨rfl, .inl ⟨rfl, rfl⟩⟩
      · split
        · exact ⟨rfl, .inl ⟨rfl, rfl⟩⟩
        · rename_i h1 h2 h3 h4
          rw [if_neg h1, if_neg h2, if_neg h3, if_neg h4] at h
          split
          · rename_i fault hf
            rw [hf] at h
            cases h
          · rename_i r hr
            refine ⟨rfl, .inr ⟨.text (Text.trim line), c.selection, r, hr, rfl, ?_⟩⟩
            rw [Session.serve]

/-- What a console has come to after some assignments: the file and what waits hold all of
them, and the store holds the last value of every token. -/
structure Mirrors (folder : Folder) (key : String) (before : String → String) (c : Console)
    (l : List Assignment) : Prop where
  persistKey : c.persistKey = some key
  kept : ∃ s written waiting, c.session.collaborator = .scheduler s ∧
    Kept folder key written waiting s ∧ written ++ waiting = l
  holds : ∀ d ∈ styled, c.session.store.get d.token = lastValue l d.token (before d.token)

variable {before : String → String} {c : Console} {l : List Assignment}

/-- Handing a patch over to a scheduler that serves one key. -/
theorem kept_persist (hkey : key ≠ "") (h : Kept folder key written waiting s)
    {m : List Assignment} (hm : ∀ a ∈ m, a.definition ∈ styled) :
    ∃ s', (Collaborator.scheduler s).persist (some key) (patchOf [] m) = .scheduler s' ∧
      Kept folder key written (waiting ++ m) s' := by
  by_cases hm0 : m = []
  · subst hm0
    refine ⟨s, ?_, by simpa using h⟩
    simp [Collaborator.persist]
  · refine ⟨(s.schedule key (patchOf [] m) false).1, ?_, kept_schedule h hm hm0⟩
    have hpatch : (patchOf [] m).isEmpty = false := by
      rw [← Bool.not_eq_true, List.isEmpty_iff]
      exact patchOf_ne_nil hm0 []
    simp [Collaborator.persist, Collaborator.schedule, hkey, hpatch]

/-- A timer writes what waits, if anything does. -/
theorem mirrors_fire (h : Mirrors folder key before c l) (k : String) :
    Mirrors folder key before (c.fire k) l := by
  obtain ⟨s, written, waiting, hs, hkept, hl⟩ := h.kept
  obtain ⟨written', waiting', hl', hkept'⟩ := kept_fire hkept k
  have hfire : c.fire k =
      { c with session := { c.session with collaborator := .scheduler (s.fire k).1 } } := by
    simp only [Console.fire, hs]
  rw [hfire]
  exact ⟨h.persistKey, ⟨_, written', waiting', rfl, hkept', hl'.trans hl⟩, h.holds⟩

/-- A line adds the assignments of its command, if it is one. -/
theorem mirrors_handle (hkey : key ≠ "") (h : Mirrors folder key before c l) {line : String}
    {b : Bool} (hok : (c.handle line).outcome = .ok b) :
    ∃ m, Mirrors folder key before (c.handle line).console (l ++ m) ∧
      changedDefinitions ((c.handle line).results.flatMap (·.changes)) =
        assignedDefinitions m := by
  obtain ⟨s, written, waiting, hs, hkept, hl⟩ := h.kept
  obtain ⟨hk, ⟨hr, hsession⟩ | ⟨request, selection, r, hserve, hr, hsession⟩⟩ := handle_cases hok
  · refine ⟨[], ?_, by rw [hr]; rfl⟩
    rw [List.append_nil]
    refine ⟨hk.trans h.persistKey, ⟨s, written, waiting, by rw [hsession, hs], hkept, hl⟩, ?_⟩
    intro d hd
    rw [hsession, h.holds d hd]
  · obtain ⟨m, hm⟩ := serve_assigns hserve
    rw [h.persistKey] at hm hsession
    obtain ⟨s', hs', hkept'⟩ := kept_persist hkey hkept hm.styled
    refine ⟨m, ⟨hk.trans h.persistKey, ⟨s', written, waiting ++ m, ?_, hkept', ?_⟩, ?_⟩, ?_⟩
    · rw [hsession, hm.collaborator, hs, hs']
    · rw [← List.append_assoc, hl]
    · intro d hd
      rw [hsession, hm.holds d hd, h.holds d hd, lastValue_append]
    · rw [hr, List.flatMap_singleton, hm.changes]

/-- One line, or a timer. -/
theorem mirrors_accept (hkey : key ≠ "") (h : Mirrors folder key before c l)
    {input : Console.Input} {b : Bool} (hok : (c.accept input).outcome = .ok b) :
    ∃ m, Mirrors folder key before (c.accept input).console (l ++ m) ∧
      changedDefinitions ((c.accept input).results.flatMap (·.changes)) =
        assignedDefinitions m := by
  cases input with
  | timer k =>
    refine ⟨[], ?_, rfl⟩
    rw [List.append_nil]
    exact mirrors_fire h k
  | line text => exact mirrors_handle hkey h hok

/-- All lines and timers. -/
theorem mirrors_acceptAll (hkey : key ≠ "") (h : Mirrors folder key before c l)
    {inputs : List Console.Input} {b : Bool} (hok : (c.acceptAll inputs).outcome = .ok b) :
    ∃ m, Mirrors folder key before (c.acceptAll inputs).console (l ++ m) ∧
      changedDefinitions ((c.acceptAll inputs).results.flatMap (·.changes)) =
        assignedDefinitions m := by
  induction inputs generalizing c l with
  | nil => exact ⟨[], by rwa [List.append_nil], rfl⟩
  | cons input rest ih =>
    unfold Console.acceptAll at hok ⊢
    dsimp only at hok ⊢
    split
    · rename_i ho
      rw [ho] at hok
      dsimp only at hok ⊢
      obtain ⟨m, hm, hc⟩ := mirrors_accept hkey h ho
      obtain ⟨n, hn, hd⟩ := ih hm hok
      refine ⟨m ++ n, by rwa [← List.append_assoc], ?_⟩
      rw [List.flatMap_append, changedDefinitions_append, hc, hd, assignedDefinitions,
        assignedDefinitions, assignedDefinitions, List.filterMap_append]
    · rename_i hne
      have ho : (c.accept input).outcome = .ok b := by
        split at hok
        · rename_i ho
          exact absurd ho hne
        · exact hok
      exact mirrors_accept hkey h ho

/-! ## Runs -/

theorem mirrors_new (settings : Settings) (key : String) (folder : Folder) :
    Mirrors folder key (TokenStore.get {}) (Console.new settings (some key) (some folder)) [] where
  persistKey := rfl
  kept := ⟨_, [], [], rfl, kept_start _ _, rfl⟩
  holds := fun _ _ => rfl

theorem close_scheduler {s : Scheduler} (h : c.session.collaborator = .scheduler s) :
    c.close.session.collaborator = .scheduler (s.shutdown true).1 ∧
      c.close.session.store = c.session.store := by
  simp only [Console.close, h, and_self]

/-- The end of a run, for a console that nothing was assigned on before. -/
theorem mirrors_runInputs (hkey : key ≠ "") (h : Mirrors folder key before c [])
    {inputs : List Console.Input} {b : Bool} (hok : (c.runInputs inputs).outcome = .ok b) :
    ∃ s, (c.runInputs inputs).console.session.collaborator = .scheduler s ∧
      s.collected = [] ∧ s.timers = [] ∧
      s.sink.folder = some (folder.keep key (mirror (c.runInputs inputs).console.session.store
        ((c.runInputs inputs).results.flatMap (·.changes)))) := by
  obtain ⟨l, hm, hc⟩ := mirrors_acceptAll hkey h hok
  rw [List.nil_append] at hm
  obtain ⟨s, written, waiting, hs, hkept, hl⟩ := hm.kept
  obtain ⟨hcollected, htimers, hfolder⟩ := kept_shutdown hkept
  have hstyled := hkept.styled
  rw [hl] at hfolder hstyled
  obtain ⟨hclose, hstore⟩ := close_scheduler hs
  refine ⟨(s.shutdown true).1, hclose, hcollected, htimers, ?_⟩
  rw [hfolder]
  unfold Console.runInputs mirror
  dsimp only
  rw [hstore, hc, patchOf_assignedDefinitions hstyled, ← patchOf_settled hstyled]
  intro a ha before
  rw [hm.holds _ (hstyled a ha)]
  exact lastValue_of_mem (List.mem_map_of_mem ha) _ _

/-- **The theme file mirrors the session.** -/
theorem theme_file_mirrors_session (settings : Settings) (key : String) (folder : Folder)
    (inputs : List Console.Input) (b : Bool) (hkey : key ≠ "")
    (hok : ((Console.new settings (some key) (some folder)).runInputs inputs).outcome = .ok b) :
    let report := (Console.new settings (some key) (some folder)).runInputs inputs
    let changes := report.results.flatMap (·.changes)
    let theme := mirror report.console.session.store changes
    ∃ s after, report.console.session.collaborator = .scheduler s ∧
      s.collected = [] ∧ s.timers = [] ∧ s.sink.folder = some after ∧
      after.load key = mergeFields (folder.load key) theme ∧
      (changedDefinitions changes = [] → after = folder) ∧
      (changedDefinitions changes ≠ [] → after = folder.write key theme) := by
  intro report changes theme
  obtain ⟨s, hs, hcollected, htimers, hfolder⟩ :=
    mirrors_runInputs hkey (mirrors_new settings key folder) hok
  refine ⟨s, _, hs, hcollected, htimers, hfolder, load_keep folder key theme, ?_, ?_⟩
  · intro hnone
    rw [(mirror_eq_nil_iff _ _).2 hnone]
    rfl
  · intro hsome
    rw [Folder.keep, if_neg]
    rw [List.isEmpty_iff]
    exact fun h => hsome ((mirror_eq_nil_iff _ _).1 h)

/-- A timer between two commands, of which the second changes a token again. -/
theorem background_mirrored :
    let report := (Console.new {} (some "app") (some {})).runInputs
      [.line "make the background blue", .timer "app", .line "make the background red",
        .line "quit"]
    let theme := mirror report.console.session.store (report.results.flatMap (·.changes))
    report.outcome = .ok false ∧
      ∃ s after, report.console.session.collaborator = .scheduler s ∧
        s.sink.folder = some after ∧ after.load "app" = mergeFields [] theme := by
  intro report theme
  have hok : report.outcome = .ok false := by
    have h : report.outcome.toOption = some false := by decide +kernel
    cases ho : report.outcome with
    | error fault =>
      rw [ho] at h
      cases h
    | ok b =>
      rw [ho] at h
      cases h
      rfl
  obtain ⟨s, after, hs, -, -, hafter, hload, -⟩ :=
    theme_file_mirrors_session {} "app" {} _ false (by decide) hok
  exact ⟨hok, s, after, hs, hafter, hload⟩

end Restyle
