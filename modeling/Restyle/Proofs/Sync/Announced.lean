import Restyle.Proofs.Sync.Attempts

/-!
# Writes are announced

Whoever fails in them, all that happens in the calls of a scheduler are writes, one after another:
every subscriber is told that a write begins, the sink is called, and every subscriber is told how
that ended.

* `toldTo`, `sinkCalls` — what one subscriber was told, and the calls of the sink.
* `announcer` — a scheduler tells those who have subscribed.
* `writes_announced` — what happens over a run of calls.
-/

set_option autoImplicit false

namespace Restyle.Sync

open Restyle.Checked

variable {ε : Type} {conduct : Conduct ε} {status : Status} {key : String} {error : Option ε}

/-! ## What a subscriber hears -/

/-- What a subscriber was told. -/
def toldTo (c : Callback) (log : List (Happening ε)) : List (Status × String × Option ε) :=
  log.filterMap fun
    | .written _ => none
    | .notified callback status key error =>
      if callback = c then some (status, key, error) else none

/-- The calls of the sink, in order. -/
def sinkCalls (log : List (Happening ε)) : List (SinkCall ε) :=
  log.filterMap fun
    | .written call => some call
    | .notified .. => none

/-- What a subscriber is told of a call of the sink. -/
def SinkCall.told (call : SinkCall ε) : List (Status × String × Option ε) :=
  [(.saving, call.key, none), (endOf call.failure, call.key, call.failure)]

theorem toldTo_announcement (c : Callback) (callbacks : List Callback) :
    toldTo c (announcement callbacks status key error) =
      List.replicate (callbacks.count c) (status, key, error) := by
  induction callbacks with
  | nil => rfl
  | cons d rest ih =>
    have hcons : toldTo c (announcement (d :: rest) status key error) =
        (if d = c then [(status, key, error)] else []) ++
          toldTo c (announcement rest status key error) := by
      by_cases h : d = c <;> simp [toldTo, announcement, h]
    rw [hcons, ih, List.count_cons]
    by_cases h : d = c
    · simp [h, List.replicate_succ]
    · simp [h]

theorem toldTo_episode (c : Callback) (callbacks : List Callback) (call : SinkCall ε) :
    toldTo c (episode callbacks call) =
      List.replicate (callbacks.count c) (.saving, call.key, none) ++
        List.replicate (callbacks.count c) (endOf call.failure, call.key, call.failure) := by
  rw [← toldTo_announcement, ← toldTo_announcement]
  simp [toldTo, episode]

/-- A subscriber that is there once is told of every call of the sink, and of nothing else. -/
theorem toldTo_episodes {c : Callback} {callbacks : List Callback} (h : callbacks.count c = 1)
    (calls : List (SinkCall ε)) :
    toldTo c (calls.flatMap (episode callbacks)) = calls.flatMap SinkCall.told := by
  unfold toldTo
  rw [List.filterMap_flatMap]
  congr 1
  funext call
  have hepisode := toldTo_episode c callbacks call
  rw [h] at hepisode
  exact hepisode

/-- A subscriber that is not there is told nothing. -/
theorem toldTo_absent {c : Callback} {callbacks : List Callback} (h : c ∉ callbacks)
    (calls : List (SinkCall ε)) : toldTo c (calls.flatMap (episode callbacks)) = [] := by
  unfold toldTo
  rw [List.filterMap_flatMap, List.flatMap_eq_nil_iff]
  intro call hcall
  have hepisode := toldTo_episode c callbacks call
  rw [List.count_eq_zero_of_not_mem h] at hepisode
  exact hepisode

theorem sinkCalls_append (a b : List (Happening ε)) :
    sinkCalls (a ++ b) = sinkCalls a ++ sinkCalls b := List.filterMap_append

theorem sinkCalls_announcement (callbacks : List Callback) :
    sinkCalls (announcement callbacks status key error) = [] := by
  simp [sinkCalls, announcement]

theorem sinkCalls_episode (callbacks : List Callback) (call : SinkCall ε) :
    sinkCalls (episode callbacks call) = [call] := by
  rw [episode, sinkCalls_append, sinkCalls_announcement, List.nil_append]
  exact congrArg (call :: ·) (sinkCalls_announcement callbacks)

theorem sinkCalls_episodes (callbacks : List Callback) (calls : List (SinkCall ε)) :
    sinkCalls (calls.flatMap (episode callbacks)) = calls := by
  induction calls with
  | nil => rfl
  | cons call rest ih =>
    rw [List.flatMap_cons, sinkCalls_append, sinkCalls_episode, ih, List.singleton_append]

/-- A scheduler tells those who have subscribed of the calls of the sink. -/
def announcer (conduct : Conduct ε) :
    Announcer (Machine ε) Call (String × Bool) Callback (Status × String × Option ε) where
  handle := Callback.handle
  make := subscription
  registry m := m.state.registry
  registration := Call.registration
  step := after conduct
  said m call := (sinkCallsIn conduct m call).flatMap SinkCall.told
  heard c m := toldTo c m.log
  handle_make _ _ := rfl
  registry_step _ := registry_after
  said_cancel m call handle h := by
    cases call with
    | unsubscribe handle => rfl
    | _ => cases h
  heard_standing m call c hsound hmem := by
    rw [(log_after conduct m call).1, toldTo, List.filterMap_append]
    exact congrArg _ (toldTo_episodes (hsound.count hmem) _)
  heard_absent m call c hmem := by
    rw [(log_after conduct m call).1, toldTo, List.filterMap_append]
    exact (congrArg _ (toldTo_absent hmem _)).trans (List.append_nil _)

/-- What is said in a run are the calls of the sink that happen in it. -/
theorem saidDuring_eq (conduct : Conduct ε) (m : Machine ε) (calls : List Call) :
    ∃ during, (calls.foldl (after conduct) m).log = m.log ++ during ∧
      (announcer conduct).saidDuring m calls = (sinkCalls during).flatMap SinkCall.told := by
  induction calls generalizing m with
  | nil => exact ⟨[], (List.append_nil _).symm, rfl⟩
  | cons call rest ih =>
    obtain ⟨during, hlog, hsaid⟩ := ih (after conduct m call)
    have hcall := (log_after conduct m call).1
    refine ⟨_, by rw [List.foldl_cons, hlog, hcall, List.append_assoc], ?_⟩
    rw [Announcer.saidDuring, sinkCalls_append, sinkCalls_episodes, List.flatMap_append, ← hsaid]
    rfl

/-! ## Runs -/

/-- How a run of calls of a new scheduler ends, and what it comes to. -/
def attempted (conduct : Conduct ε) (sink : Sink) (calls : List Call) :
    Except ε Unit × Machine ε := outcome (attemptAll conduct calls) { state := { sink } }

theorem attempted_eq (conduct : Conduct ε) (sink : Sink) (calls : List Call) :
    attempted conduct sink calls =
      (.ok (), calls.foldl (after conduct) { state := { sink } }) :=
  outcome_attemptAll conduct _ calls

theorem attempted_append (conduct : Conduct ε) (sink : Sink) (calls : List Call) (call : Call)
    (rest : List Call) :
    (attempted conduct sink (calls ++ call :: rest)).2 =
      rest.foldl (after conduct) (after conduct (attempted conduct sink calls).2 call) := by
  rw [attempted_eq, attempted_eq, List.foldl_append, List.foldl_cons]

/-- All that happens in a call after others are its writes, each with its announcements. -/
theorem log_attempted (conduct : Conduct ε) (sink : Sink) (calls : List Call) (call : Call) :
    ∃ writes : List (SinkCall ε),
      (attempted conduct sink (calls ++ [call])).2.log =
          (attempted conduct sink calls).2.log ++
            writes.flatMap (episode (attempted conduct sink calls).2.state.callbacks) ∧
        writes.map (fun call => (call.key, call.patch)) =
          ((attempted conduct sink calls).2.state.take call).2 := by
  rw [attempted_append]
  exact ⟨_, log_after conduct _ call⟩

/-- **A subscriber hears** of the writes from its subscription to the first use of its handle. -/
theorem toldTo_attempted (conduct : Conduct ε) (sink : Sink) (calls : List Call) (name : String)
    (failing : Bool) (later : List Call) :
    let run := attempted conduct sink
    let handle := ((run calls).2.state.subscribe name failing).2
    let lasting := later.takeWhile fun call => !call.registration.cancels handle
    ∃ during,
      (run (calls ++ .subscribe name failing :: lasting)).2.log = (run calls).2.log ++ during ∧
        toldTo ⟨handle, name, failing⟩
            (run (calls ++ .subscribe name failing :: later)).2.log =
          (sinkCalls during).flatMap SinkCall.told := by
  intro run handle lasting
  obtain ⟨during, hlog, hsaid⟩ := saidDuring_eq conduct
    (after conduct (run calls).2 (.subscribe name failing)) lasting
  refine ⟨during, ?_, ?_⟩
  · rw [attempted_append]
    exact hlog
  · have hfresh : (announcer conduct).Sound { state := { sink } } := Registry.sound_of_empty rfl
    have hheard := Announcer.heard_subscribed hfresh (fun _ => rfl) calls
      (.subscribe name failing) (name, failing) rfl later
    have hstate : ∀ calls, (run calls).2 =
        (announcer conduct).run { state := { sink } } calls :=
      fun calls => congrArg Prod.snd (attempted_eq conduct sink calls)
    dsimp only at hheard
    rw [← hstate, ← hstate] at hheard
    exact hheard.trans hsaid

/-- **A scheduler's operations are its attempts**, with a sink and subscribers that fail as they are
said to. -/
theorem callAll_attempted (sink : Sink) (calls : List Call) :
    (attempted (Conduct.declared sink.failing) sink calls).2.state =
        (Scheduler.callAll { sink } calls).1 ∧
      (attempted (Conduct.declared sink.failing) sink calls).2.log.map Happening.event =
        (Scheduler.callAll { sink } calls).2 := by
  have hstart : Machine.At sink.failing { sink } [] { state := { sink } } := ⟨rfl, rfl, rfl⟩
  obtain ⟨hscheduler, hevents, -⟩ := hstart.afterAll calls
  rw [attempted_eq]
  exact ⟨hscheduler, hevents⟩

/-- **Every write is announced, and so is its end**, whoever fails and whenever.  No call fails.
All that happens in one are its writes, in order, and none of those that are due is left out: each
is announced to the subscribers, handed to the sink, and announced with its end.  A subscriber hears
of the writes from its subscription to the first use of its handle, and of no others.  With a sink
and subscribers that fail as they are said to, this is what a scheduler's operations give. -/
theorem writes_announced (conduct : Conduct ε) (sink : Sink) (calls : List Call) :
    let run := attempted conduct sink
    (run calls).1 = .ok () ∧
      (∀ call, ∃ writes : List (SinkCall ε),
        (run (calls ++ [call])).2.log =
            (run calls).2.log ++ writes.flatMap (episode (run calls).2.state.callbacks) ∧
          writes.map (fun call => (call.key, call.patch)) =
            ((run calls).2.state.take call).2) ∧
      (∀ name failing later,
        let handle := ((run calls).2.state.subscribe name failing).2
        let lasting := later.takeWhile fun call => !call.registration.cancels handle
        ∃ during,
          (run (calls ++ .subscribe name failing :: lasting)).2.log =
              (run calls).2.log ++ during ∧
            toldTo ⟨handle, name, failing⟩
                (run (calls ++ .subscribe name failing :: later)).2.log =
              (sinkCalls during).flatMap SinkCall.told) ∧
      (attempted (Conduct.declared sink.failing) sink calls).2.state =
          (Scheduler.callAll { sink } calls).1 ∧
        (attempted (Conduct.declared sink.failing) sink calls).2.log.map Happening.event =
          (Scheduler.callAll { sink } calls).2 := by
  intro run
  refine ⟨?_, ?_, ?_, ?_⟩
  · exact congrArg Prod.fst (attempted_eq conduct sink calls)
  · exact log_attempted conduct sink calls
  · exact toldTo_attempted conduct sink calls
  · exact callAll_attempted sink calls

end Restyle.Sync
