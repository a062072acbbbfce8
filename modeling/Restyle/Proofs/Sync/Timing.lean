import Mathlib.Data.List.Induction
import Restyle.Proofs.Document.Paths
import Restyle.Proofs.Sync.Files

/-!
# Timing does not show

Patches of a key reach its file one by one or merged with others, as timers and flushes have it.
Once nothing waits, the file has what it had, merged with the patches one after another, as long
as no path is a section of one of them and a plain value of another.

* `foldl_blocks` — patches merged in blocks, and the blocks merged into a file.
* `Serves` — what the file of a key has come to.
* `serves_operate`, `serves_operateAll` — one call, and a run.
* `blocks_of_flushed` — what was written after a last flush.
* `timing_unseen` — the file after it.
-/

set_option autoImplicit false

namespace Restyle.Sync

open Restyle.Assoc Restyle.Document

variable {key k : String} {file : Option Theme} {s : Scheduler} {layout : List String → Prop}
  {base : Theme} {patches : List Theme}

/-! ## Patches in blocks -/

/-- A patch of a layout. -/
structure Made (layout : List String → Prop) (patch : Theme) : Prop where
  proper : Proper (.mapping patch)
  follows : Follows layout (.mapping patch)

/-- Patches of a layout give one of that layout. -/
theorem made_mergeAll (hroot : layout []) (h : ∀ patch ∈ patches, Made layout patch) :
    Made layout (mergeAll patches) := by
  induction patches using List.reverseRecOn with
  | nil => exact ⟨proper_nil, follows_nil hroot⟩
  | append_singleton rest patch ih =>
    rw [List.forall_mem_append, List.forall_mem_singleton] at h
    have hrest := ih h.1
    rw [mergeAll_append]
    exact ⟨proper_mergeFields hrest.proper h.2.proper,
      follows_mergeFields h.2.proper hrest.follows h.2.follows⟩

/-- **Merging patches first** gives what merging them one after another gives. -/
theorem mergeFields_mergeAll (hbase : Follows layout (.mapping base))
    (h : ∀ patch ∈ patches, Made layout patch) :
    mergeFields base (mergeAll patches) = patches.foldl mergeFields base := by
  induction patches using List.reverseRecOn with
  | nil => exact mergeFields_nil base
  | append_singleton rest patch ih =>
    rw [List.forall_mem_append, List.forall_mem_singleton] at h
    have hrest := made_mergeAll hbase.root h.1
    rw [mergeAll_append,
      ← mergeFields_assoc hrest.proper h.2.proper (not_separates hbase hrest.follows), ih h.1,
      List.foldl_append]
    rfl

/-- **Blocks of patches** give a file what the patches give it one by one. -/
theorem foldl_blocks {blocks : List (List Theme)}
    (hfile : Follows layout (.mapping (file.getD [])))
    (h : ∀ patch ∈ blocks.flatten, Made layout patch) (hfilled : ∀ block ∈ blocks, block ≠ []) :
    (blocks.map mergeAll).foldl mergeInto file = blocks.flatten.foldl mergeInto file := by
  induction blocks generalizing file with
  | nil => rfl
  | cons block rest ih =>
    rw [List.flatten_cons, List.forall_mem_append] at h
    have hmade := made_mergeAll hfile.root h.1
    have hblock : mergeInto file (mergeAll block) = block.foldl mergeInto file := by
      rw [foldl_mergeInto, if_neg (hfilled block List.mem_cons_self), mergeInto,
        mergeFields_mergeAll hfile h.1]
    have hnext : Follows layout (.mapping ((mergeInto file (mergeAll block)).getD [])) :=
      follows_mergeFields hmade.proper hfile hmade.follows
    rw [List.map_cons, List.foldl_cons, List.flatten_cons, List.foldl_append, ← hblock]
    exact ih hnext h.2 fun b hb => hfilled b (List.mem_cons_of_mem block hb)

/-! ## The file of a key -/

/-- Keys that are the same or have files of their own. -/
def Apart (key k : String) : Prop := k = key ∨ fileName k ≠ fileName key

/-- Calls that leave a key's file to the key, and never fail it. -/
def Operation.Spares (key : String) : Operation → Prop
  | .schedule k _ _ => Apart key k
  | .outage keys => key ∉ keys
  | _ => True

/-- A scheduler that has brought the file of a key to some content, and lets no other key write
to it. -/
structure Serves (key : String) (file : Option Theme) (s : Scheduler) : Prop where
  folder : ∃ folder, s.sink.folder = some folder ∧ folder.file? key = file
  working : key ∉ s.sink.failing
  apart : ∀ k ∈ keys s.collected, Apart key k

/-- Only collection and sink matter. -/
theorem Serves.congr {t : Scheduler} (h : Serves key file s) (hsink : t.sink = s.sink)
    (hcollected : ∀ k ∈ keys t.collected, Apart key k) : Serves key file t where
  folder := by
    rw [hsink]
    exact h.folder
  working := by
    rw [hsink]
    exact h.working
  apart := hcollected

theorem Serves.release (h : Serves key file s) (k : String) : Serves key file (s.release k) :=
  h.congr rfl fun k' hk' => h.apart k' (mem_keys_erase.1 hk').2

/-- What writing a patch makes of the sink. -/
theorem sink_perform (s : Scheduler) (k : String) (patch : Theme) :
    (s.perform k patch).1.sink =
      if k ∈ s.sink.failing then s.sink
      else { s.sink with folder := s.sink.folder.map fun f => f.write k patch } := by
  unfold Scheduler.perform Sink.write
  by_cases h : k ∈ s.sink.failing
  · simp [h]
  · simp [h]

/-- A patch is written. -/
theorem Serves.perform (h : Serves key file s) (hk : Apart key k) (patch : Theme) :
    Serves key ((writtenFor key (s.perform k patch).2).foldl mergeInto file)
      (s.perform k patch).1 := by
  obtain ⟨hcollected, -, hwritten⟩ := perform_spec s k patch
  obtain ⟨folder, hfolder, hfile⟩ := h.folder
  have hsink := sink_perform s k patch
  rw [hwritten]
  by_cases hf : k ∈ s.sink.failing
  · have hne : k ≠ key := fun he => h.working (he ▸ hf)
    rw [if_pos hf] at hsink
    rw [if_neg hne]
    exact h.congr hsink (hcollected ▸ h.apart)
  · rw [if_neg hf, hfolder] at hsink
    refine ⟨⟨folder.write k patch, ?_, ?_⟩, ?_, hcollected ▸ h.apart⟩
    · rw [hsink]
      rfl
    · rw [file?_write, hfile]
      rcases hk with rfl | hne
      · rw [if_pos rfl, if_pos rfl]
        rfl
      · have hkey : k ≠ key := fun he => hne (he ▸ rfl)
        rw [if_neg hne, if_neg hkey]
        rfl
    · rw [hsink]
      exact h.working

/-- Patches are written. -/
theorem Serves.performAll {work : List (String × Theme)} (h : Serves key file s)
    (hwork : ∀ k ∈ keys work, Apart key k) :
    Serves key ((writtenFor key (s.performAll work).2).foldl mergeInto file)
      (s.performAll work).1 := by
  induction work generalizing file s with
  | nil => exact h
  | cons entry rest ih =>
    obtain ⟨k, patch⟩ := entry
    rw [keys_cons, List.forall_mem_cons] at hwork
    have hrest := ih (h.perform hwork.1 patch) hwork.2
    simp only [Scheduler.performAll, writtenFor_append, List.foldl_append]
    exact hrest

theorem serves_flushKey (h : Serves key file s) (k : String) :
    Serves key ((writtenFor key (s.flushKey k).2).foldl mergeInto file) (s.flushKey k).1 := by
  unfold Scheduler.flushKey
  split
  · rename_i patch hp
    have hk : k ∈ keys s.collected := by
      rw [mem_keys_iff]
      exact Option.isSome_of_eq_some hp
    exact (h.release k).perform (h.apart k hk) patch
  · exact h.congr rfl h.apart

theorem serves_flushAll (h : Serves key file s) :
    Serves key ((writtenFor key s.flushAll.2).foldl mergeInto file) s.flushAll.1 := by
  refine Serves.performAll ?_ h.apart
  exact h.congr rfl (List.forall_mem_nil _)

theorem serves_schedule (h : Serves key file s) (hk : Apart key k) (patch : Theme)
    (immediate : Bool) :
    Serves key ((writtenFor key (s.schedule k patch immediate).2).foldl mergeInto file)
      (s.schedule k patch immediate).1 := by
  unfold Scheduler.schedule
  dsimp only
  split
  · exact (h.release k).perform hk _
  · refine h.congr rfl ?_
    intro k' hk'
    rcases mem_keys_put.1 hk' with rfl | hmem
    · exact hk
    · exact h.apart k' hmem

/-- **One call** merges what it writes for the key into the file. -/
theorem serves_operate (h : Serves key file s) {op : Operation} (hop : op.Spares key) :
    Serves key ((writtenFor key (s.operate op).2).foldl mergeInto file) (s.operate op).1 := by
  cases op with
  | schedule k patch immediate => exact serves_schedule h hop patch immediate
  | expire k => exact serves_flushKey h k
  | flush target =>
    cases target with
    | some k => exact serves_flushKey h k
    | none => exact serves_flushAll h
  | shutdown => exact (serves_flushAll h).congr rfl (List.forall_mem_nil _)
  | subscribe name failing => exact h.congr rfl h.apart
  | unsubscribe handle => exact h.congr rfl h.apart
  | outage keys => exact ⟨h.folder, hop, h.apart⟩

/-- **A run** merges what it writes for the key into the file. -/
theorem serves_operateAll (h : Serves key file s) {ops : List Operation}
    (hops : ∀ op ∈ ops, op.Spares key) :
    Serves key ((writtenFor key (s.operateAll ops).2).foldl mergeInto file)
      (s.operateAll ops).1 := by
  induction ops generalizing file s with
  | nil => exact h
  | cons op rest ih =>
    rw [List.forall_mem_cons] at hops
    have hrest := ih (serves_operate h hops.1) hops.2
    simp only [Scheduler.operateAll, writtenFor_append, List.foldl_append]
    exact hrest

/-! ## The last flush -/

theorem pending?_flush (h : InStep s) {target : Option String}
    (ht : target = none ∨ target = some key) : (s.flush target).1.pending? key = none := by
  rcases ht with rfl | rfl
  · rw [Scheduler.pending?, Scheduler.flush, (flushAll_spec h).1]
    rfl
  · simp only [Scheduler.flush, Scheduler.flushKey]
    split
    · rw [pending?_perform, pending?_release, if_pos rfl]
    · assumption

theorem operateAll_concat (s : Scheduler) (ops : List Operation) (op : Operation) :
    (s.operateAll (ops ++ [op])).1 = ((s.operateAll ops).1.operate op).1 := by
  induction ops generalizing s with
  | nil => rfl
  | cons first rest ih => exact ih (s.operate first).1

theorem scheduledFor_flush (key : String) (ops : List Operation) (target : Option String) :
    scheduledFor key (ops ++ [.flush target]) = scheduledFor key ops := by
  rw [scheduledFor, List.filterMap_append]
  exact List.append_nil _

/-- **After a last flush** everything that was scheduled for a key has been written, in blocks. -/
theorem blocks_of_flushed (h : InStep s) (hnone : s.pending? key = none) (ops : List Operation)
    {target : Option String} (ht : target = none ∨ target = some key) :
    ∃ blocks : List (List Theme),
      writtenFor key (s.operateAll (ops ++ [.flush target])).2 = blocks.map mergeAll ∧
      scheduledFor key ops = blocks.flatten ∧ ∀ block ∈ blocks, block ≠ [] := by
  have hstart : InBlocks [] [] (s.pending? key) [] [] := ⟨rfl, rfl, by simp, hnone⟩
  obtain ⟨blocks, waiting, hend⟩ := hstart.run h (ops ++ [.flush target])
  have hwaiting : waiting = [] := by
    have hp := hend.pending
    rw [operateAll_concat, Scheduler.operate, pending?_flush (inStep_operateAll h ops) ht] at hp
    by_contra hw
    rw [if_neg hw] at hp
    cases hp
  refine ⟨blocks, ?_, ?_, hend.filled⟩
  · have hwritten := hend.written
    rwa [List.nil_append] at hwritten
  · have hscheduled := hend.scheduled
    rwa [hwaiting, List.append_nil, List.nil_append, scheduledFor_flush] at hscheduled

/-- **Timing does not show in the stored theme**: whichever patches are written at once, and
wherever timers go off and flushes fall, after a last flush the file of a key has what it had,
merged with the patches scheduled for the key one after another.  No path may be a section of one
of them, or of the file, and a plain value of another. -/
theorem timing_unseen (callbacks : List Callback) (nextHandle : Nat) (folder : Folder)
    (key : String) (ops : List Operation) (target : Option String)
    (htarget : target = none ∨ target = some key) (hops : ∀ op ∈ ops, op.Spares key)
    (hproper : ∀ patch ∈ scheduledFor key ops, Proper (.mapping patch))
    (hconsistent : Consistent (folder.load key :: scheduledFor key ops)) :
    ∃ after : Folder,
      (Scheduler.operateAll { callbacks, nextHandle, sink := { folder := some folder } }
        (ops ++ [.flush target])).1.sink.folder = some after ∧
      after.file? key = (scheduledFor key ops).foldl mergeInto (folder.file? key) ∧
      after.load key = (scheduledFor key ops).foldl mergeFields (folder.load key) := by
  let start : Scheduler := { callbacks, nextHandle, sink := { folder := some folder } }
  have hfresh : InStep start := inStep_of_empty rfl rfl
  have hserves : Serves key (folder.file? key) start :=
    ⟨⟨folder, rfl, rfl⟩, List.not_mem_nil, List.forall_mem_nil _⟩
  obtain ⟨blocks, hwritten, hscheduled, hfilled⟩ := blocks_of_flushed hfresh rfl ops htarget
  -- the file that they were written to
  have hops' : ∀ op ∈ ops ++ [.flush target], op.Spares key :=
    List.forall_mem_append.2 ⟨hops, by simp [Operation.Spares]⟩
  obtain ⟨after, hafter, hfile⟩ := (serves_operateAll hserves hops').folder
  have hload : Follows (sectionsOf (folder.load key :: scheduledFor key ops))
      (.mapping ((folder.file? key).getD [])) := hconsistent.follows List.mem_cons_self
  have hmade : ∀ patch ∈ scheduledFor key ops,
      Made (sectionsOf (folder.load key :: scheduledFor key ops)) patch := fun patch hp =>
    ⟨hproper patch hp, hconsistent.follows (List.mem_cons_of_mem _ hp)⟩
  have hresult : after.file? key = (scheduledFor key ops).foldl mergeInto (folder.file? key) := by
    rw [hfile, hwritten, hscheduled]
    exact foldl_blocks hload (hscheduled ▸ hmade) hfilled
  refine ⟨after, hafter, hresult, ?_⟩
  rw [load_eq, hresult, getD_foldl_mergeInto]
  rfl

/-- A theme with one color. -/
def oneColor (name value : String) : Theme := [("colors", .mapping [(name, .text value)])]

/-- Calls with a pause: two patches are merged before the timer goes off, and one is not. -/
def pausedCalls : List Operation :=
  [.schedule "app" (oneColor "background" "white") false, .schedule "b" (oneColor "ring" "red") true,
    .schedule "app" (oneColor "primary" "green") false, .expire "app",
    .schedule "app" (oneColor "primary" "blue") true]

theorem proper_oneColor (name value : String) : Proper (.mapping (oneColor name value)) := by
  apply proper_mapping (by simp [oneColor, keys])
  intro key d hd
  obtain ⟨-, rfl⟩ : key = "colors" ∧ Document.mapping [(name, .text value)] = d := by
    simpa [oneColor, get?_cons] using hd
  apply proper_mapping (by simp [keys])
  intro key d hd
  obtain ⟨-, rfl⟩ : key = name ∧ Document.text value = d := by simpa [get?_cons] using hd
  exact proper_of_plain rfl

theorem follows_oneColor (name value : String) :
    Follows (fun path => path = [] ∨ path = ["colors"]) (.mapping (oneColor name value)) := by
  apply follows_mapping (.inl rfl)
  intro key d hd
  obtain ⟨rfl, rfl⟩ : key = "colors" ∧ Document.mapping [(name, .text value)] = d := by
    simpa [oneColor, get?_cons] using hd
  apply follows_mapping (.inr rfl)
  intro key d hd
  obtain ⟨-, rfl⟩ : key = name ∧ Document.text value = d := by simpa [get?_cons] using hd
  exact follows_of_plain rfl (by simp)

/-- A folder with one file. -/
def oneFile : Folder := { files := [("app.yaml", oneColor "primary" "black")] }

theorem timing_unseen_paused :
    ∃ after : Folder,
      (Scheduler.operateAll { sink := { folder := some oneFile } }
        (pausedCalls ++ [.flush none])).1.sink.folder = some after ∧
      after.load "app" =
        [("colors", .mapping [("primary", .text "blue"), ("background", .text "white")])] := by
  have hops : ∀ op ∈ pausedCalls, op.Spares "app" := by
    simp [pausedCalls, Operation.Spares, Apart, fileName_eq_iff]
  have hscheduled : scheduledFor "app" pausedCalls =
      [oneColor "background" "white", oneColor "primary" "green", oneColor "primary" "blue"] := rfl
  have hbefore : oneFile.load "app" = oneColor "primary" "black" := by rfl
  have hconsistent : Consistent (oneFile.load "app" :: scheduledFor "app" pausedCalls) := by
    apply consistent_of_follows
    simp only [hscheduled, hbefore, List.forall_mem_cons]
    exact ⟨follows_oneColor _ _, follows_oneColor _ _, follows_oneColor _ _, follows_oneColor _ _,
      List.forall_mem_nil _⟩
  obtain ⟨after, hafter, -, hload⟩ := timing_unseen [] 0 oneFile "app" pausedCalls none (.inl rfl)
    hops (by simp [hscheduled, proper_oneColor]) hconsistent
  exact ⟨after, hafter, hload.trans (by rfl)⟩

end Restyle.Sync
