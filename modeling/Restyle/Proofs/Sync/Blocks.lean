import Restyle.Proofs.Assoc
import Restyle.Sync.Scheduler

/-!
# No patch is lost

A scheduler is used call by call: patches are scheduled for any keys, timers go off early, late or
twice, patches are flushed, the sink fails for some keys for a while, and subscribers come and go.
For every key the patches that were scheduled fall into consecutive blocks.  Each block but the
last reached the sink as one merged patch, in order, and the last one is what waits.

* `Operation`, `Scheduler.operateAll` — the calls, and a run of them.
* `operate_cases` — all that a call can do to one key.
* `inStep_operateAll` — timers run for exactly the keys that wait.
* `no_patch_lost` — the blocks of a run.
-/

set_option autoImplicit false

namespace Restyle.Sync

open Restyle.Assoc Restyle.Document

/-! ## Calls -/

/-- A call of a scheduler, or a change of its surroundings. -/
inductive Operation where
  | schedule (key : String) (patch : Theme) (immediate : Bool)
  /-- A timer of a key goes off, whether one is known to run or not. -/
  | expire (key : String)
  | flush (key : Option String)
  | shutdown
  | subscribe (name : String) (failing : Bool)
  | unsubscribe (handle : Nat)
  /-- From now on the sink fails for these keys and for no others. -/
  | outage (keys : List String)

namespace Scheduler

/-- One call: the scheduler afterwards, and what happened. -/
def operate (s : Scheduler) : Operation → Scheduler × List SyncEvent
  | .schedule key patch immediate => s.schedule key patch immediate
  | .expire key => s.fire key
  | .flush key => s.flush key
  | .shutdown => s.shutdown true
  | .subscribe name failing => ((s.subscribe name failing).1, [])
  | .unsubscribe handle => (s.unsubscribe handle, [])
  | .outage keys => ({ s with sink := { s.sink with failing := keys } }, [])

/-- Calls one after another. -/
def operateAll (s : Scheduler) : List Operation → Scheduler × List SyncEvent
  | [] => (s, [])
  | op :: rest =>
    let (s, first) := s.operate op
    let (s, others) := s.operateAll rest
    (s, first ++ others)

end Scheduler

/-- The patch that a call schedules for a key. -/
def Operation.patchFor (key : String) : Operation → Option Theme
  | .schedule k patch _ => if k = key then some patch else none
  | _ => none

/-- The patches that calls schedule for a key, in order. -/
def scheduledFor (key : String) (ops : List Operation) : List Theme :=
  ops.filterMap (Operation.patchFor key)

/-- The patch with which an event calls the sink for a key. -/
def SyncEvent.patchFor (key : String) : SyncEvent → Option Theme
  | .written k patch => if k = key then some patch else none
  | .notified .. => none

/-- The patches of the sink calls for a key, in order. -/
def writtenFor (key : String) (events : List SyncEvent) : List Theme :=
  events.filterMap (SyncEvent.patchFor key)

/-- Patches merged from left to right, beginning with the empty theme. -/
def mergeAll (patches : List Theme) : Theme := patches.foldl mergeFields []

theorem mergeAll_append (patches : List Theme) (patch : Theme) :
    mergeAll (patches ++ [patch]) = mergeFields (mergeAll patches) patch := by
  simp only [mergeAll, List.foldl_append, List.foldl_cons, List.foldl_nil]

theorem writtenFor_append (key : String) (a b : List SyncEvent) :
    writtenFor key (a ++ b) = writtenFor key a ++ writtenFor key b := List.filterMap_append

variable {s : Scheduler} {key k : String}

/-! ## Writing -/

theorem writtenFor_notifyAll (key k : String) (status : Status) (error : Option WriteError) :
    writtenFor key (s.notifyAll status k error) = [] := by
  simp [writtenFor, Scheduler.notifyAll, Callback.notify, SyncEvent.patchFor]

/-- Writing a patch leaves the collection and the timers alone, and calls the sink once, whether
it fails or not. -/
theorem perform_spec (s : Scheduler) (k : String) (patch : Theme) :
    (s.perform k patch).1.collected = s.collected ∧ (s.perform k patch).1.timers = s.timers ∧
      ∀ key, writtenFor key (s.perform k patch).2 = if k = key then [patch] else [] := by
  have hcall : ∀ key, writtenFor key [.written k patch] = if k = key then [patch] else [] := by
    intro key
    by_cases h : k = key <;> simp [writtenFor, SyncEvent.patchFor, h]
  unfold Scheduler.perform
  dsimp only
  split
  · refine ⟨rfl, rfl, ?_⟩
    intro key
    simp only [writtenFor_append, writtenFor_notifyAll, hcall, List.nil_append, List.append_nil]
  · refine ⟨rfl, rfl, ?_⟩
    intro key
    simp only [writtenFor_append, writtenFor_notifyAll, hcall, List.nil_append, List.append_nil]

/-- Writing several patches of different keys calls the sink once for each of them. -/
theorem performAll_spec (work : List (String × Theme)) (hn : (keys work).Nodup) (s : Scheduler) :
    (s.performAll work).1.collected = s.collected ∧ (s.performAll work).1.timers = s.timers ∧
      ∀ key, writtenFor key (s.performAll work).2 = (get? work key).toList := by
  induction work generalizing s with
  | nil => exact ⟨rfl, rfl, fun key => rfl⟩
  | cons entry rest ih =>
    obtain ⟨k, patch⟩ := entry
    rw [keys_cons, List.nodup_cons] at hn
    obtain ⟨hcollected, htimers, hfirst⟩ := perform_spec s k patch
    obtain ⟨hcollected', htimers', hothers⟩ := ih hn.2 (s.perform k patch).1
    simp only [Scheduler.performAll]
    refine ⟨hcollected'.trans hcollected, htimers'.trans htimers, ?_⟩
    intro key
    rw [writtenFor_append, hfirst, hothers, get?_cons]
    by_cases h : key = k
    · subst h
      simp [get?_of_not_mem hn.1]
    · simp [h, Ne.symm h]

/-! ## Timers -/

/-- Timers run for exactly the keys that wait, one for each. -/
structure InStep (s : Scheduler) : Prop where
  collected : (keys s.collected).Nodup
  timers : s.timers.Nodup
  mem : ∀ key, key ∈ s.timers ↔ key ∈ keys s.collected

/-- Writing keeps timers and collection in step. -/
theorem InStep.perform (h : InStep s) (k : String) (patch : Theme) :
    InStep (s.perform k patch).1 := by
  obtain ⟨hcollected, htimers, -⟩ := perform_spec s k patch
  constructor
  · rw [hcollected]
    exact h.collected
  · rw [htimers]
    exact h.timers
  · rw [hcollected, htimers]
    exact h.mem

theorem inStep_release (h : InStep s) (k : String) : InStep (s.release k) where
  collected := nodup_keys_erase h.collected k
  timers := h.timers.filter _
  mem := by
    intro key
    have hm := h.mem key
    simp only [Scheduler.release, Scheduler.stopTimer, List.mem_filter, bne_iff_ne, mem_keys_erase,
      hm, and_comm]

theorem inStep_schedule (h : InStep s) (k : String) (patch : Theme) (immediate : Bool) :
    InStep (s.schedule k patch immediate).1 := by
  unfold Scheduler.schedule
  dsimp only
  split
  · exact (inStep_release h k).perform k _
  · constructor
    · exact nodup_keys_put h.collected k _
    · have hk : k ∉ s.timers.filter (· != k) := by simp
      simp only [Scheduler.stopTimer]
      rw [List.nodup_append]
      refine ⟨h.timers.filter _, by simp, ?_⟩
      intro a ha b hb hab
      simp only [List.mem_singleton] at hb
      subst hb; subst hab
      exact hk ha
    · intro key
      have hm := h.mem key
      simp only [Scheduler.stopTimer, List.mem_append, List.mem_filter, bne_iff_ne,
        List.mem_singleton, mem_keys_put, hm]
      by_cases hk : key = k <;> simp [hk]

theorem inStep_flushKey (h : InStep s) (k : String) : InStep (s.flushKey k).1 := by
  unfold Scheduler.flushKey
  split
  · exact (inStep_release h k).perform k _
  · rename_i hp
    -- a key that does not wait has no timer that could be stopped
    have hk : k ∉ s.timers := by
      rw [h.mem, mem_keys_iff]
      simp only [Scheduler.pending?] at hp
      simp [hp]
    have hf : s.timers.filter (· != k) = s.timers := by
      rw [List.filter_eq_self]
      intro a ha
      rw [bne_iff_ne]
      rintro rfl
      exact hk ha
    simp only [Scheduler.stopTimer, hf]
    exact h

theorem flushAll_spec (h : InStep s) :
    s.flushAll.1.collected = [] ∧ s.flushAll.1.timers = [] ∧
      ∀ key, writtenFor key s.flushAll.2 = (s.pending? key).toList := by
  unfold Scheduler.flushAll
  dsimp only
  obtain ⟨hcollected, htimers, hwritten⟩ := performAll_spec s.collected h.collected
    { s with collected := [], timers := s.timers.filter fun k => !(keys s.collected).contains k }
  refine ⟨hcollected, ?_, hwritten⟩
  rw [htimers, List.filter_eq_nil_iff]
  intro k hk
  have hm := (h.mem k).1 hk
  simp [hm]

theorem inStep_of_empty (hcollected : s.collected = []) (htimers : s.timers = []) : InStep s := by
  constructor
  · rw [hcollected]
    exact List.nodup_nil
  · rw [htimers]
    exact List.nodup_nil
  · intro key
    rw [hcollected, htimers]
    simp [keys]

/-- Every call keeps timers and collection in step. -/
theorem inStep_operate (h : InStep s) (op : Operation) : InStep (s.operate op).1 := by
  cases op with
  | schedule k patch immediate => exact inStep_schedule h k patch immediate
  | expire k => exact inStep_flushKey h k
  | flush key =>
    cases key with
    | some k => exact inStep_flushKey h k
    | none =>
      obtain ⟨hcollected, htimers, -⟩ := flushAll_spec h
      exact inStep_of_empty hcollected htimers
  | shutdown => exact inStep_of_empty rfl rfl
  | subscribe name failing => exact ⟨h.collected, h.timers, h.mem⟩
  | unsubscribe handle => exact ⟨h.collected, h.timers, h.mem⟩
  | outage keys => exact ⟨h.collected, h.timers, h.mem⟩

/-- **Timers run for exactly the keys that wait.** -/
theorem inStep_operateAll (h : InStep s) (ops : List Operation) :
    InStep (s.operateAll ops).1 := by
  induction ops generalizing s with
  | nil => exact h
  | cons op rest ih => exact ih (inStep_operate h op)

/-! ## One call and one key -/

/-- All that a call can do to one key: its patch is kept as it is, takes in a new one, or goes to
the sink, with or without a new one. -/
inductive Effect (before : Option Theme) : List Theme → List Theme → Option Theme → Prop
  | none : Effect before [] [] before
  | collect (patch : Theme) :
    Effect before [patch] [] (some (mergeFields (before.getD []) patch))
  | writeNow (patch : Theme) :
    Effect before [patch] [mergeFields (before.getD []) patch] none
  | release : Effect before [] before.toList none

theorem pending?_perform (s : Scheduler) (k : String) (patch : Theme) (key : String) :
    (s.perform k patch).1.pending? key = s.pending? key := by
  obtain ⟨hcollected, -, -⟩ := perform_spec s k patch
  simp only [Scheduler.pending?, hcollected]

theorem pending?_release (s : Scheduler) (k key : String) :
    (s.release k).pending? key = if key = k then none else s.pending? key := by
  simp only [Scheduler.pending?, Scheduler.release, get?_erase]

theorem effect_schedule (s : Scheduler) (k : String) (patch : Theme) (immediate : Bool)
    (key : String) :
    Effect (s.pending? key) (if k = key then [patch] else [])
      (writtenFor key (s.schedule k patch immediate).2)
      ((s.schedule k patch immediate).1.pending? key) := by
  cases immediate with
  | true =>
    obtain ⟨-, -, hwritten⟩ :=
      perform_spec (s.release k) k (mergeFields ((s.pending? k).getD []) patch)
    simp only [Scheduler.schedule, if_true, hwritten, pending?_perform, pending?_release]
    by_cases h : k = key
    · subst h
      simp only [if_true]
      exact .writeNow patch
    · simp only [if_neg h, if_neg (Ne.symm h)]
      exact .none
  | false =>
    simp only [Scheduler.schedule, Bool.false_eq_true, if_false, Scheduler.pending?,
      Scheduler.stopTimer, get?_put, writtenFor, List.filterMap_nil]
    by_cases h : k = key
    · subst h
      simp only [if_true]
      exact .collect patch
    · simp only [if_neg h, if_neg (Ne.symm h)]
      exact .none

theorem effect_flushKey (s : Scheduler) (k key : String) :
    Effect (s.pending? key) [] (writtenFor key (s.flushKey k).2)
      ((s.flushKey k).1.pending? key) := by
  unfold Scheduler.flushKey
  split
  · rename_i patch hp
    obtain ⟨-, -, hwritten⟩ := perform_spec (s.release k) k patch
    rw [hwritten, pending?_perform, pending?_release]
    by_cases h : k = key
    · subst h
      have hl : [patch] = (s.pending? k).toList := by rw [hp]; rfl
      simp only [if_true, hl]
      exact .release
    · simp only [if_neg h, if_neg (Ne.symm h)]
      exact .none
  · exact .none

theorem effect_flushAll (h : InStep s) (key : String) :
    Effect (s.pending? key) [] (writtenFor key s.flushAll.2) (s.flushAll.1.pending? key) := by
  obtain ⟨hcollected, -, hwritten⟩ := flushAll_spec h
  rw [hwritten, Scheduler.pending?, Scheduler.pending?, hcollected]
  exact .release

/-- All that a call can do to one key. -/
theorem operate_cases (h : InStep s) (op : Operation) (key : String) :
    Effect (s.pending? key) (scheduledFor key [op]) (writtenFor key (s.operate op).2)
      ((s.operate op).1.pending? key) := by
  cases op with
  | schedule k patch immediate =>
    have hs : scheduledFor key [.schedule k patch immediate] = if k = key then [patch] else [] := by
      by_cases hk : k = key <;> simp [scheduledFor, Operation.patchFor, hk]
    rw [hs]
    exact effect_schedule s k patch immediate key
  | expire k => exact effect_flushKey s k key
  | flush target =>
    cases target with
    | some k => exact effect_flushKey s k key
    | none => exact effect_flushAll h key
  | shutdown =>
    -- dropping what waits drops nothing once everything was written
    have hp : (s.operate .shutdown).1.pending? key = s.flushAll.1.pending? key := by
      rw [Scheduler.pending?, Scheduler.pending?, (flushAll_spec h).1]
      rfl
    rw [hp]
    exact effect_flushAll h key
  | subscribe name failing => exact .none
  | unsubscribe handle => exact .none
  | outage keys => exact .none

/-! ## Blocks -/

/-- Patches in blocks: all but the last block were written, and the last one waits. -/
structure InBlocks (scheduled written : List Theme) (pending : Option Theme)
    (blocks : List (List Theme)) (waiting : List Theme) : Prop where
  scheduled : scheduled = blocks.flatten ++ waiting
  written : written = blocks.map mergeAll
  filled : ∀ block ∈ blocks, block ≠ []
  pending : pending = if waiting = [] then none else some (mergeAll waiting)

variable {scheduled written more calls : List Theme} {pending after : Option Theme}
  {blocks : List (List Theme)} {waiting : List Theme}

theorem InBlocks.pending_getD (h : InBlocks scheduled written pending blocks waiting) :
    pending.getD [] = mergeAll waiting := by
  rw [h.pending]
  split
  · rename_i hw
    rw [hw]
    rfl
  · rfl

/-- A patch that is taken in goes to the end of the block that waits. -/
theorem InBlocks.collect (h : InBlocks scheduled written pending blocks waiting) (patch : Theme) :
    InBlocks (scheduled ++ [patch]) written (some (mergeFields (pending.getD []) patch)) blocks
      (waiting ++ [patch]) where
  scheduled := by rw [h.scheduled, List.append_assoc]
  written := h.written
  filled := h.filled
  pending := by rw [if_neg (by simp), mergeAll_append, h.pending_getD]

/-- What waits is written, and its block is closed. -/
theorem InBlocks.close {theme : Theme}
    (h : InBlocks scheduled written (some theme) blocks waiting) :
    InBlocks scheduled (written ++ [theme]) none (blocks ++ [waiting]) [] := by
  have hp := h.pending
  have hw : waiting ≠ [] := by
    intro hw
    rw [if_pos hw] at hp
    cases hp
  rw [if_neg hw, Option.some.injEq] at hp
  constructor
  · rw [h.scheduled, List.flatten_append, List.flatten_singleton, List.append_nil]
  · rw [h.written, List.map_append, hp]
    rfl
  · intro block hb
    rcases List.mem_append.mp hb with hb | hb
    · exact h.filled block hb
    · rw [List.mem_singleton.mp hb]
      exact hw
  · rfl

/-- One call adds to the last block, or closes it, or both. -/
theorem InBlocks.step (h : InBlocks scheduled written pending blocks waiting)
    (he : Effect pending more calls after) :
    ∃ blocks' waiting', InBlocks (scheduled ++ more) (written ++ calls) after blocks' waiting' := by
  cases he with
  | none =>
    refine ⟨blocks, waiting, ?_⟩
    simpa only [List.append_nil] using h
  | collect patch =>
    refine ⟨blocks, waiting ++ [patch], ?_⟩
    simpa only [List.append_nil] using h.collect patch
  | writeNow patch => exact ⟨_, _, (h.collect patch).close⟩
  | release =>
    cases pending with
    | none =>
      refine ⟨blocks, waiting, ?_⟩
      simpa only [Option.toList_none, List.append_nil] using h
    | some theme =>
      refine ⟨blocks ++ [waiting], [], ?_⟩
      simpa only [Option.toList_some, List.append_nil] using h.close

/-- Any number of calls. -/
theorem InBlocks.run (hs : InStep s) (ops : List Operation)
    (h : InBlocks scheduled written (s.pending? key) blocks waiting) :
    ∃ blocks' waiting', InBlocks (scheduled ++ scheduledFor key ops)
      (written ++ writtenFor key (s.operateAll ops).2) ((s.operateAll ops).1.pending? key)
      blocks' waiting' := by
  induction ops generalizing s scheduled written blocks waiting with
  | nil =>
    refine ⟨blocks, waiting, ?_⟩
    simpa [scheduledFor, writtenFor, Scheduler.operateAll] using h
  | cons op rest ih =>
    obtain ⟨blocks₁, waiting₁, h₁⟩ := h.step (operate_cases hs op key)
    obtain ⟨blocks₂, waiting₂, h₂⟩ := ih (inStep_operate hs op) h₁
    refine ⟨blocks₂, waiting₂, ?_⟩
    have hsplit : scheduledFor key (op :: rest) =
        scheduledFor key [op] ++ scheduledFor key rest := by
      rw [scheduledFor, ← List.singleton_append, List.filterMap_append]
      rfl
    simp only [Scheduler.operateAll, writtenFor_append, hsplit]
    rw [← List.append_assoc, ← List.append_assoc]
    exact h₂

/-- **No patch is lost, duplicated or reordered**, whatever the calls are and whichever writes
fail: the patches scheduled for a key are consecutive blocks, none of them empty, that were written
one after another, each merged from left to right, and a last block that waits, merged the same
way.  One timer runs for the key when this block is not empty, and none when it is. -/
theorem no_patch_lost (callbacks : List Callback) (nextHandle : Nat) (sink : Sink)
    (ops : List Operation) (key : String) :
    let run := Scheduler.operateAll { callbacks, nextHandle, sink } ops
    (∃ (blocks : List (List Theme)) (waiting : List Theme),
      scheduledFor key ops = blocks.flatten ++ waiting ∧
      (∀ block ∈ blocks, block ≠ []) ∧ writtenFor key run.2 = blocks.map mergeAll ∧
      run.1.pending? key = if waiting = [] then none else some (mergeAll waiting)) ∧
    (key ∈ run.1.timers ↔ (run.1.pending? key).isSome = true) ∧ run.1.timers.Nodup := by
  intro run
  have hfresh : InStep { callbacks, nextHandle, sink } := inStep_of_empty rfl rfl
  have hrun : InStep run.1 := inStep_operateAll hfresh ops
  refine ⟨?_, ?_, hrun.timers⟩
  · have hstart : InBlocks [] [] (Scheduler.pending? { callbacks, nextHandle, sink } key) [] [] :=
      ⟨rfl, rfl, by simp, rfl⟩
    obtain ⟨blocks, waiting, h⟩ := hstart.run hfresh ops
    exact ⟨blocks, waiting, h.scheduled, h.filled, h.written, h.pending⟩
  · rw [hrun.mem, mem_keys_iff]
    rfl

end Restyle.Sync
