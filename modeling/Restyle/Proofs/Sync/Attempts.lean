import Restyle.Proofs.Checked.Guarded
import Restyle.Proofs.Subscribed
import Restyle.Sync.Scheduler

/-!
# Calls in which others fail

Whomever a scheduler calls may fail: the sink at any write, and a subscriber at any stage of one.
Here their failures are raised where they happen, and the scheduler catches them as it does.  What
every call comes to is said outright, and it is what the scheduler's operations give when the sink
and the subscribers fail as they are said to.

* `Conduct` — how the sink and the subscribers behave, which may depend on all that happened.
* `attempt` — a call of a scheduler, with the failures that are raised and caught in it.
* `after`, `outcome_attempt` — what every call comes to.
* `log_after` — all that happens in a call are its writes.
* `Machine.At.after` — a call of a scheduler is its attempt.
-/

set_option autoImplicit false

namespace Restyle.Sync

open Restyle.Checked

variable {ε : Type}

/-! ## Those who are called -/

/-- A call of the sink, and what it failed with, if it did. -/
structure SinkCall (ε : Type) where
  key : String
  patch : Theme
  failure : Option ε

/-- Something that happened: the sink was called, or a subscriber was told of a stage. -/
inductive Happening (ε : Type) where
  | written (call : SinkCall ε)
  | notified (callback : Callback) (status : Status) (key : String) (error : Option ε)

/-- What the sink and the subscribers fail with, if they do, after all that happened before. -/
structure Conduct (ε : Type) where
  sink : List (Happening ε) → String → Theme → Option ε
  callback : List (Happening ε) → Happening ε → Option ε

/-- A scheduler, and all that happened. -/
abbrev Machine (ε : Type) := Logged Scheduler (Happening ε)

/-! ## Attempts -/

/-- The scheduler after a patch reached the sink. -/
def Scheduler.wrote (s : Scheduler) (key : String) (patch : Theme) : Scheduler :=
  { s with sink := { s.sink with folder := s.sink.folder.map fun f => f.write key patch } }

/-- Every subscriber is told of a stage. -/
def announcement (callbacks : List Callback) (status : Status) (key : String) (error : Option ε) :
    List (Happening ε) := callbacks.map fun c => .notified c status key error

section

variable (conduct : Conduct ε)

/-- Tells all subscribers; their failures are left aside. -/
def notify (status : Status) (key : String) (error : Option ε) : Attempt ε (Machine ε) Unit := do
  let m : Machine ε ← get
  tellAll conduct.callback (announcement m.state.callbacks status key error)

/-- Calls the sink. -/
def hand (key : String) (patch : Theme) : Attempt ε (Machine ε) Unit := do
  let m : Machine ε ← get
  let failure := conduct.sink m.log key patch
  let m := m.noting [.written ⟨key, patch, failure⟩]
  match failure with
  | some e => do
    set m
    throw e
  | none => set { m with state := m.state.wrote key patch }

/-- Writes a patch and tells the subscribers. -/
def perform (key : String) (patch : Theme) : Attempt ε (Machine ε) Unit := do
  notify conduct .saving key none
  let saved ← tryCatch (do hand conduct key patch; pure true) fun e => do
    notify conduct .error key (some e)
    pure false
  if saved then notify conduct .saved key none

end

/-- A call of a scheduler. -/
inductive Call where
  | schedule (key : String) (patch : Theme) (immediate : Bool)
  /-- A timer of a key goes off, whether one is known to run or not. -/
  | expire (key : String)
  | flush (key : Option String)
  | shutdown (flush : Bool)
  | subscribe (name : String) (failing : Bool)
  | unsubscribe (handle : Nat)

namespace Scheduler

/-- Takes what waits for a key, to be written. -/
def takeKey (s : Scheduler) (key : String) : Scheduler × List (String × Theme) :=
  match s.pending? key with
  | some patch => (s.release key, [(key, patch)])
  | none => (s.stopTimer key, [])

/-- Takes all that waits, to be written. -/
def takeAll (s : Scheduler) : Scheduler × List (String × Theme) :=
  let keys := Assoc.keys s.collected
  ({ s with collected := [], timers := s.timers.filter fun k => !keys.contains k }, s.collected)

/-- What a call does before anybody is called, and the patches that it is to write. -/
def take (s : Scheduler) : Call → Scheduler × List (String × Theme)
  | .schedule key patch true =>
    (s.release key, [(key, Document.mergeFields ((s.pending? key).getD []) patch)])
  | .schedule key patch false => ((s.schedule key patch false).1, [])
  | .expire key => s.takeKey key
  | .flush (some key) => s.takeKey key
  | .flush none => s.takeAll
  | .shutdown true => s.takeAll
  | .shutdown false => (s, [])
  | .subscribe name failing => ((s.subscribe name failing).1, [])
  | .unsubscribe handle => (s.unsubscribe handle, [])

/-- What a call does at its end. -/
def settle (s : Scheduler) : Call → Scheduler
  | .shutdown _ => { s with collected := [], timers := [] }
  | _ => s

end Scheduler

/-- A call: what is to be written is taken out of the collection first. -/
def attempt (conduct : Conduct ε) (call : Call) : Attempt ε (Machine ε) Unit := do
  let m : Machine ε ← get
  let (taken, work) := m.state.take call
  set { m with state := taken }
  work.forM fun entry => perform conduct entry.1 entry.2
  modify fun m => { m with state := m.state.settle call }

/-- Calls one after another. -/
def attemptAll (conduct : Conduct ε) (calls : List Call) : Attempt ε (Machine ε) Unit :=
  calls.forM (attempt conduct)

/-! ## What happens in a write -/

/-- The stage that a write ends with. -/
def endOf : Option ε → Status
  | none => .saved
  | some _ => .error

/-- A write, from its announcement to its end. -/
def episode (callbacks : List Callback) (call : SinkCall ε) : List (Happening ε) :=
  announcement callbacks .saving call.key none ++
    .written call :: announcement callbacks (endOf call.failure) call.key call.failure

section

variable (conduct : Conduct ε) (m : Machine ε)

/-- The call of the sink in a write. -/
def sinkCall (entry : String × Theme) : SinkCall ε :=
  { key := entry.1
    patch := entry.2
    failure :=
      conduct.sink (m.log ++ announcement m.state.callbacks .saving entry.1 none)
        entry.1 entry.2 }

/-- What a write comes to. -/
def performed (entry : String × Theme) : Machine ε :=
  let call := sinkCall conduct m entry
  { state := if call.failure.isSome then m.state else m.state.wrote entry.1 entry.2
    log := m.log ++ episode m.state.callbacks call }

/-- The calls of the sink in several writes. -/
def sinkCallsOf (m : Machine ε) : List (String × Theme) → List (SinkCall ε)
  | [] => []
  | entry :: rest => sinkCall conduct m entry :: sinkCallsOf (performed conduct m entry) rest

/-- What a call comes to. -/
def after (call : Call) : Machine ε :=
  let done := (m.state.take call).2.foldl (performed conduct)
    { m with state := (m.state.take call).1 }
  { done with state := done.state.settle call }

/-- The calls of the sink in a call. -/
def sinkCallsIn (call : Call) : List (SinkCall ε) :=
  sinkCallsOf conduct { m with state := (m.state.take call).1 } (m.state.take call).2

end

variable {conduct : Conduct ε} {m : Machine ε} {status : Status} {key : String} {error : Option ε}

theorem outcome_notify :
    outcome (notify conduct status key error) m =
      (.ok (), m.noting (announcement m.state.callbacks status key error)) := by
  unfold notify
  rw [outcome_get_bind, outcome_tellAll]

theorem outcome_hand (key : String) (patch : Theme) :
    outcome (hand conduct key patch) m =
      match conduct.sink m.log key patch with
      | some e => (.error e, m.noting [.written ⟨key, patch, some e⟩])
      | none => (.ok (), { m.noting [.written ⟨key, patch, none⟩] with
          state := m.state.wrote key patch }) := by
  unfold hand
  rw [outcome_get_bind]
  dsimp only
  split
  · rename_i h
    rw [h]
    rfl
  · rename_i h
    rw [h]
    rfl

/-- **A write does not fail**, whoever does in it. -/
theorem outcome_perform (conduct : Conduct ε) (m : Machine ε) (key : String) (patch : Theme) :
    outcome (perform conduct key patch) m = (.ok (), performed conduct m (key, patch)) := by
  unfold perform
  rw [outcome_bind_ok outcome_notify, outcome_bind, outcome_tryCatch, outcome_bind, outcome_hand]
  cases h : conduct.sink (m.noting (announcement m.state.callbacks .saving key none)).log
      key patch with
  | none =>
    have hcall : sinkCall conduct m (key, patch) = ⟨key, patch, none⟩ :=
      congrArg (SinkCall.mk key patch) h
    change outcome (notify conduct .saved key none) _ = _
    rw [outcome_notify, performed, hcall]
    simp [episode, endOf, Logged.noting, Scheduler.wrote]
  | some e =>
    have hcall : sinkCall conduct m (key, patch) = ⟨key, patch, some e⟩ :=
      congrArg (SinkCall.mk key patch) h
    dsimp only
    rw [outcome_bind_ok outcome_notify, performed, hcall]
    change (Except.ok (), Logged.noting _ _) = _
    simp [episode, endOf, Logged.noting]

/-- **No call fails**, whoever does in it. -/
theorem outcome_attempt (conduct : Conduct ε) (m : Machine ε) (call : Call) :
    outcome (attempt conduct call) m = (.ok (), after conduct m call) := by
  have hwork := outcome_forM
    (fun m (entry : String × Theme) => outcome_perform conduct m entry.1 entry.2)
    (m.state.take call).2 { m with state := (m.state.take call).1 }
  unfold attempt
  rw [outcome_get_bind]
  dsimp only
  rw [outcome_set_bind, outcome_bind_ok hwork]
  rfl

/-- **No run of calls fails.** -/
theorem outcome_attemptAll (conduct : Conduct ε) (m : Machine ε) (calls : List Call) :
    outcome (attemptAll conduct calls) m = (.ok (), calls.foldl (after conduct) m) :=
  outcome_forM (outcome_attempt conduct) calls m

/-! ## What happens in a call -/

/-- What a call does to the subscriptions. -/
def Call.registration : Call → Registration (String × Bool)
  | .subscribe name failing => .add (name, failing)
  | .unsubscribe handle => .cancel handle
  | _ => .keep

/-- The subscriptions of a scheduler. -/
def Scheduler.registry (s : Scheduler) : Registry Callback := ⟨s.callbacks, s.nextHandle⟩

/-- A subscription as a scheduler keeps it. -/
def subscription (who : String × Bool) (handle : Nat) : Callback := ⟨handle, who.1, who.2⟩

/-- A write leaves the subscriptions alone. -/
theorem registry_performed (conduct : Conduct ε) (m : Machine ε) (entry : String × Theme) :
    (performed conduct m entry).state.registry = m.state.registry := by
  unfold performed
  dsimp only
  split
  · rfl
  · rfl

/-- **Writes happen one after another**, and each of them, however the others end. -/
theorem foldl_performed (conduct : Conduct ε) (m : Machine ε) (work : List (String × Theme)) :
    (work.foldl (performed conduct) m).log =
        m.log ++ (sinkCallsOf conduct m work).flatMap (episode m.state.callbacks) ∧
      (sinkCallsOf conduct m work).map (fun call => (call.key, call.patch)) = work ∧
      (work.foldl (performed conduct) m).state.registry = m.state.registry := by
  induction work generalizing m with
  | nil => simp [sinkCallsOf]
  | cons entry rest ih =>
    have hregistry := registry_performed conduct m entry
    obtain ⟨hlog, hwork, hrest⟩ := ih (performed conduct m entry)
    have hcallbacks : (performed conduct m entry).state.callbacks = m.state.callbacks :=
      congrArg Registry.standing hregistry
    rw [hcallbacks] at hlog
    refine ⟨?_, ?_, hrest.trans hregistry⟩
    · rw [List.foldl_cons, hlog, sinkCallsOf, List.flatMap_cons, ← List.append_assoc]
      rfl
    · rw [sinkCallsOf, List.map_cons, hwork]
      rfl

theorem takeKey_frame (s : Scheduler) (key : String) :
    (s.takeKey key).1.sink = s.sink ∧ (s.takeKey key).1.registry = s.registry := by
  unfold Scheduler.takeKey
  split
  · exact ⟨rfl, rfl⟩
  · exact ⟨rfl, rfl⟩

/-- Before anybody is called the sink is left alone, and only subscriptions change subscriptions. -/
theorem take_frame (s : Scheduler) (call : Call) :
    (s.take call).1.sink = s.sink ∧
      (s.take call).1.registry =
        s.registry.register Callback.handle subscription call.registration := by
  match call with
  | .schedule key patch true => exact ⟨rfl, rfl⟩
  | .schedule key patch false => exact ⟨rfl, rfl⟩
  | .expire key => exact takeKey_frame s key
  | .flush (some key) => exact takeKey_frame s key
  | .flush none => exact ⟨rfl, rfl⟩
  | .shutdown true => exact ⟨rfl, rfl⟩
  | .shutdown false => exact ⟨rfl, rfl⟩
  | .subscribe name failing => exact ⟨rfl, rfl⟩
  | .unsubscribe handle => exact ⟨rfl, rfl⟩

theorem settle_frame (s : Scheduler) (call : Call) :
    (s.settle call).sink = s.sink ∧ (s.settle call).registry = s.registry := by
  cases call <;> exact ⟨rfl, rfl⟩

/-- Only subscriptions change subscriptions. -/
theorem registry_after (call : Call) :
    (after conduct m call).state.registry =
      m.state.registry.register Callback.handle subscription call.registration := by
  obtain ⟨-, -, hregistry⟩ := foldl_performed conduct
    { m with state := (m.state.take call).1 } (m.state.take call).2
  unfold after
  dsimp only
  rw [(settle_frame _ call).2, hregistry, (take_frame _ call).2]

/-- A call that writes leaves the subscriptions alone. -/
theorem callbacks_take {s : Scheduler} {call : Call} (h : (s.take call).2 ≠ []) :
    (s.take call).1.callbacks = s.callbacks := by
  have hregistry := (take_frame s call).2
  cases call with
  | subscribe name failing => exact absurd rfl h
  | unsubscribe handle => exact absurd rfl h
  | _ => exact congrArg Registry.standing hregistry

/-- **All that happens in a call are its writes.** -/
theorem log_after (conduct : Conduct ε) (m : Machine ε) (call : Call) :
    (after conduct m call).log =
        m.log ++ (sinkCallsIn conduct m call).flatMap (episode m.state.callbacks) ∧
      (sinkCallsIn conduct m call).map (fun call => (call.key, call.patch)) =
        (m.state.take call).2 := by
  obtain ⟨hlog, hwork, -⟩ := foldl_performed conduct
    { m with state := (m.state.take call).1 } (m.state.take call).2
  refine ⟨?_, hwork⟩
  unfold after sinkCallsIn
  dsimp only
  rw [hlog]
  dsimp only
  by_cases hnil : (m.state.take call).2 = []
  · rw [hnil]
    rfl
  · rw [callbacks_take hnil]

/-! ## Failures that are said in advance -/

/-- Those who fail as a scheduler says: the sink for some keys, and some subscribers always. -/
def Conduct.declared (failing : List String) : Conduct WriteError where
  sink _ key _ := if failing.contains key then some .diskFull else none
  callback
    | _, .notified c _ _ _ => if c.failing then some .diskFull else none
    | _, .written _ => none

/-- What happened, without the ends of the calls of the sink. -/
def Happening.event : Happening WriteError → SyncEvent
  | .written call => .written call.key call.patch
  | .notified c status key error => .notified c status key error

namespace Scheduler

/-- One call: the scheduler afterwards, and what happened. -/
def call (s : Scheduler) : Call → Scheduler × List SyncEvent
  | .schedule key patch immediate => s.schedule key patch immediate
  | .expire key => s.fire key
  | .flush key => s.flush key
  | .shutdown flush => s.shutdown flush
  | .subscribe name failing => ((s.subscribe name failing).1, [])
  | .unsubscribe handle => (s.unsubscribe handle, [])

/-- Calls one after another. -/
def callAll (s : Scheduler) : List Call → Scheduler × List SyncEvent
  | [] => (s, [])
  | call :: rest =>
    let (s, first) := s.call call
    let (s, others) := s.callAll rest
    (s, first ++ others)

theorem performAll_singleton (s : Scheduler) (key : String) (patch : Theme) :
    s.performAll [(key, patch)] = s.perform key patch := by
  simp only [performAll, List.append_nil]

theorem flushKey_eq (s : Scheduler) (key : String) :
    s.flushKey key = (s.takeKey key).1.performAll (s.takeKey key).2 := by
  cases h : s.pending? key with
  | none => simp only [flushKey, takeKey, h, performAll]
  | some patch => simp only [flushKey, takeKey, h, performAll_singleton]

/-- A call takes what it is to write, writes it, and settles. -/
theorem call_eq (s : Scheduler) (c : Call) :
    s.call c =
      ((((s.take c).1.performAll (s.take c).2).1).settle c,
        ((s.take c).1.performAll (s.take c).2).2) := by
  match c with
  | .schedule key patch true => exact (performAll_singleton _ _ _).symm
  | .schedule key patch false => rfl
  | .expire key => exact flushKey_eq s key
  | .flush (some key) => exact flushKey_eq s key
  | .flush none => rfl
  | .shutdown true => rfl
  | .shutdown false => rfl
  | .subscribe name failing => rfl
  | .unsubscribe handle => rfl

end Scheduler

/-- A machine that is where a scheduler is, after the same happened. -/
structure Machine.At (failing : List String) (s : Scheduler) (events : List SyncEvent)
    (m : Machine WriteError) : Prop where
  scheduler : m.state = s
  events : m.log.map Happening.event = events
  failing : s.sink.failing = failing

variable {failing : List String} {s : Scheduler} {events : List SyncEvent}
  {machine : Machine WriteError}

theorem map_announcement (s : Scheduler) (status : Status) (key : String)
    (error : Option WriteError) :
    (announcement s.callbacks status key error).map Happening.event =
      s.notifyAll status key error := by
  simp [announcement, Scheduler.notifyAll, Callback.notify, Happening.event]

theorem perform_failing {key : String} (h : s.sink.failing.contains key = true) (patch : Theme) :
    s.perform key patch =
      (s, s.notifyAll .saving key none ++ [.written key patch] ++
        s.notifyAll .error key (some .diskFull)) := by
  simp only [Scheduler.perform, Sink.write, if_pos h]

theorem perform_working {key : String} (h : ¬s.sink.failing.contains key = true) (patch : Theme) :
    s.perform key patch =
      (s.wrote key patch, s.notifyAll .saving key none ++ [.written key patch] ++
        s.notifyAll .saved key none) := by
  simp only [Scheduler.perform, Sink.write, if_neg h]
  rfl

theorem Machine.At.performed (h : machine.At failing s events) (key : String) (patch : Theme) :
    (performed (Conduct.declared failing) machine (key, patch)).At failing (s.perform key patch).1
      (events ++ (s.perform key patch).2) := by
  obtain ⟨rfl, rfl, rfl⟩ := h
  unfold Sync.performed
  by_cases hk : machine.state.sink.failing.contains key = true
  · have hcall : sinkCall (Conduct.declared machine.state.sink.failing) machine (key, patch) =
        ⟨key, patch, some .diskFull⟩ := congrArg (SinkCall.mk key patch) (if_pos hk)
    rw [hcall, perform_failing hk]
    refine ⟨rfl, ?_, rfl⟩
    simp [episode, map_announcement, Happening.event, endOf]
  · have hcall : sinkCall (Conduct.declared machine.state.sink.failing) machine (key, patch) =
        ⟨key, patch, none⟩ := congrArg (SinkCall.mk key patch) (if_neg hk)
    rw [hcall, perform_working hk]
    refine ⟨rfl, ?_, rfl⟩
    simp [episode, map_announcement, Happening.event, endOf]

theorem Machine.At.performedAll (h : machine.At failing s events) (work : List (String × Theme)) :
    (work.foldl (Sync.performed (Conduct.declared failing)) machine).At failing
      (s.performAll work).1 (events ++ (s.performAll work).2) := by
  induction work generalizing machine s events with
  | nil =>
    rw [Scheduler.performAll, List.append_nil]
    exact h
  | cons entry rest ih =>
    obtain ⟨key, patch⟩ := entry
    simp only [Scheduler.performAll, List.foldl_cons, ← List.append_assoc]
    exact ih (h.performed key patch)

/-- **A call of a scheduler is its attempt**, when its sink and its subscribers fail as it says. -/
theorem Machine.At.after (h : machine.At failing s events) (call : Call) :
    (after (Conduct.declared failing) machine call).At failing (s.call call).1
      (events ++ (s.call call).2) := by
  obtain ⟨rfl, hevents, hfailing⟩ := h
  have htaken : Machine.At failing (machine.state.take call).1 events
      { machine with state := (machine.state.take call).1 } :=
    ⟨rfl, hevents, (congrArg Sink.failing (take_frame _ call).1).trans hfailing⟩
  obtain ⟨hscheduler, hwork, hstill⟩ := htaken.performedAll (machine.state.take call).2
  rw [Scheduler.call_eq]
  refine ⟨?_, hwork, ?_⟩
  · unfold Sync.after
    dsimp only
    rw [hscheduler]
  · dsimp only
    rw [(settle_frame _ call).1]
    exact hstill

theorem Machine.At.afterAll (h : machine.At failing s events) (calls : List Call) :
    (calls.foldl (Sync.after (Conduct.declared failing)) machine).At failing (s.callAll calls).1
      (events ++ (s.callAll calls).2) := by
  induction calls generalizing machine s events with
  | nil =>
    rw [Scheduler.callAll, List.append_nil]
    exact h
  | cons call rest ih =>
    simp only [Scheduler.callAll, List.foldl_cons, ← List.append_assoc]
    exact ih (h.after call)

end Restyle.Sync
