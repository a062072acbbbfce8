import Restyle.Proofs.Checked.Guarded
import Restyle.Proofs.Interpreter.ChangeLog
import Restyle.Proofs.Subscribed

/-!
# Events are delivered

A subscriber of the store may fail at any event.  Here its failure is raised where it happens, and
the store catches it as it does.  No call of the store fails then, its writes are what they are
without any subscriber, and every subscriber is told of the writes from its subscription to the
first use of its handle, whatever the others do.

* `Conduct` — how the subscribers behave, which may depend on all that they were told.
* `attempt` — a call of a store, with the failures that are raised and caught in it.
* `TokenStore.events` — the events of calls.
* `events_delivered` — what happens over a run of calls.
-/

set_option autoImplicit false

namespace Restyle.Store

open Restyle.Checked
open Restyle.Interpreter (heardBy heardBy_append heardBy_told)

variable {ε : Type}

/-! ## Attempts -/

/-- A call of a store. -/
inductive Call where
  | set (token value : String)
  | setMode (mode : Mode)
  | subscribe (name : String) (failing : Bool)
  | unsubscribe (handle : Nat)

/-- What the subscribers fail with, if they do, after all that they were told before. -/
abbrev Conduct (ε : Type) := List Delivery → Delivery → Option ε

/-- A store, and all that its subscribers were told, whether they failed then or not. -/
abbrev Machine := Logged TokenStore Delivery

/-- Every subscriber is told of an event. -/
def announcement (subscribers : List Subscriber) (event : Event) : List Delivery :=
  subscribers.map fun u => ⟨u, event⟩

/-- Tells all subscribers; their failures are left aside. -/
def emit (conduct : Conduct ε) (event : Event) : Attempt ε Machine Unit := do
  let m : Machine ← get
  tellAll conduct (announcement m.state.subscribers event)

/-- What a call does before anybody is told, and the event of a write. -/
def TokenStore.take (s : TokenStore) : Call → TokenStore × Option Event
  | .set token value =>
    ((s.set token value).1, some ⟨token, s.get token, TokenStore.stored token value⟩)
  | .setMode mode => ((s.setMode mode).1, some ⟨"mode", s.mode.name, mode.name⟩)
  | .subscribe name failing => ((s.subscribe name failing).1, none)
  | .unsubscribe handle => (s.unsubscribe handle, none)

/-- A call: a write is done first, and the subscribers are told of it then. -/
def attempt (conduct : Conduct ε) (call : Call) : Attempt ε Machine Unit := do
  let m : Machine ← get
  let (store, event) := m.state.take call
  set { m with state := store }
  match event with
  | some event => emit conduct event
  | none => pure ()

/-- Calls one after another. -/
def attemptAll (conduct : Conduct ε) (calls : List Call) : Attempt ε Machine Unit :=
  calls.forM (attempt conduct)

/-! ## What happens in a call -/

/-- What a call does to the subscriptions. -/
def Call.registration : Call → Registration (String × Bool)
  | .subscribe name failing => .add (name, failing)
  | .unsubscribe handle => .cancel handle
  | _ => .keep

/-- The events of calls, in order. -/
def TokenStore.events (s : TokenStore) : List Call → List Event
  | [] => []
  | call :: rest => (s.take call).2.toList ++ TokenStore.events (s.take call).1 rest

/-- The events of calls up to the first use of a handle. -/
def TokenStore.eventsUntil (s : TokenStore) (handle : Nat) (calls : List Call) : List Event :=
  s.events (calls.takeWhile fun call => !call.registration.cancels handle)

/-- What a call comes to. -/
def after (m : Machine) (call : Call) : Machine where
  state := (m.state.take call).1
  log := m.log ++
    (m.state.take call).2.toList.flatMap (announcement (m.state.take call).1.subscribers)

theorem outcome_emit (conduct : Conduct ε) (m : Machine) (event : Event) :
    outcome (emit conduct event) m =
      (.ok (), m.noting (announcement m.state.subscribers event)) := by
  unfold emit
  rw [outcome_get_bind, outcome_tellAll]

/-- **No call fails**, whoever does in it. -/
theorem outcome_attempt (conduct : Conduct ε) (m : Machine) (call : Call) :
    outcome (attempt conduct call) m = (.ok (), after m call) := by
  unfold attempt after
  rw [outcome_get_bind]
  dsimp only
  rw [outcome_set_bind]
  cases h : (m.state.take call).2 with
  | none =>
    dsimp only
    rw [Option.toList_none, List.flatMap_nil, List.append_nil]
    rfl
  | some event =>
    dsimp only
    rw [outcome_emit, Option.toList_some, List.flatMap_singleton]
    rfl

/-- **No run of calls fails.** -/
theorem outcome_attemptAll (conduct : Conduct ε) (m : Machine) (calls : List Call) :
    outcome (attemptAll conduct calls) m = (.ok (), calls.foldl after m) :=
  outcome_forM (outcome_attempt conduct) calls m

/-! ## What a subscriber hears -/

/-- The subscriptions of a store. -/
def TokenStore.registry (s : TokenStore) : Registry Subscriber := ⟨s.subscribers, s.nextHandle⟩

/-- A subscription as a store keeps it. -/
def subscription (who : String × Bool) (handle : Nat) : Subscriber := ⟨handle, who.1, who.2⟩

/-- Only subscriptions change subscriptions. -/
theorem registry_take (s : TokenStore) (call : Call) :
    (s.take call).1.registry =
      s.registry.register Subscriber.handle subscription call.registration := by
  cases call <;> rfl

/-- A call that writes leaves the subscriptions alone. -/
theorem log_after (m : Machine) (call : Call) :
    (after m call).log =
      m.log ++ (m.state.take call).2.toList.flatMap (announcement m.state.subscribers) := by
  cases call <;> rfl

/-- A subscriber hears of a write as often as it is there. -/
theorem heardBy_after (u : Subscriber) (m : Machine) (call : Call) :
    heardBy u (after m call).log =
      heardBy u m.log ++ (m.state.take call).2.toList.flatMap fun event =>
        List.replicate (m.state.subscribers.count u) event := by
  rw [log_after, heardBy_append]
  cases (m.state.take call).2 with
  | none => rfl
  | some event =>
    rw [Option.toList_some, List.flatMap_singleton, List.flatMap_singleton, announcement,
      heardBy_told]

/-- A store tells those who have subscribed of its writes. -/
def announcer : Announcer Machine Call (String × Bool) Subscriber Event where
  handle := Subscriber.handle
  make := subscription
  registry m := m.state.registry
  registration := Call.registration
  step := after
  said m call := (m.state.take call).2.toList
  heard u m := heardBy u m.log
  handle_make _ _ := rfl
  registry_step m call := registry_take m.state call
  said_cancel m call handle h := by
    cases call with
    | unsubscribe handle => rfl
    | _ => cases h
  heard_standing m call u hsound hmem := by
    have hcount : m.state.subscribers.count u = 1 := hsound.count hmem
    rw [heardBy_after, hcount]
    exact congrArg _ (List.flatMap_singleton' _)
  heard_absent m call u hmem := by
    have hcount : m.state.subscribers.count u = 0 := List.count_eq_zero_of_not_mem hmem
    rw [heardBy_after, hcount]
    simp

/-- What is said in a run are its events. -/
theorem saidDuring_eq (m : Machine) (calls : List Call) :
    announcer.saidDuring m calls = m.state.events calls := by
  induction calls generalizing m with
  | nil => rfl
  | cons call rest ih =>
    rw [Announcer.saidDuring, ih]
    rfl

/-! ## What a store keeps -/

/-- Tokens and mode after a call, as if nobody had subscribed. -/
def Call.applied (state : Tokens × Mode) : Call → Tokens × Mode
  | .set token value => (state.1.put token (TokenStore.stored token value), state.2)
  | .setMode mode => (state.1, mode)
  | _ => state

/-- **The writes of a run are done**, whoever fails. -/
theorem foldl_after_state (calls : List Call) (m : Machine) :
    ((calls.foldl after m).state.tokens, (calls.foldl after m).state.mode) =
      calls.foldl Call.applied (m.state.tokens, m.state.mode) := by
  induction calls generalizing m with
  | nil => rfl
  | cons call rest ih =>
    have hcall : ((after m call).state.tokens, (after m call).state.mode) =
        Call.applied (m.state.tokens, m.state.mode) call := by
      cases call <;> rfl
    rw [List.foldl_cons, ih, hcall, List.foldl_cons]

/-! ## Failures that are said in advance -/

namespace TokenStore

/-- One call: the store afterwards, and what the subscribers hear. -/
def call (s : TokenStore) : Call → TokenStore × List Delivery
  | .set token value => s.set token value
  | .setMode mode => s.setMode mode
  | .subscribe name failing => ((s.subscribe name failing).1, [])
  | .unsubscribe handle => (s.unsubscribe handle, [])

/-- Calls one after another. -/
def callAll (s : TokenStore) : List Call → TokenStore × List Delivery
  | [] => (s, [])
  | call :: rest =>
    let (s, first) := s.call call
    let (s, others) := s.callAll rest
    (s, first ++ others)

end TokenStore

/-- What those hear who do not fail. -/
def received (deliveries : List Delivery) : List Delivery :=
  deliveries.filter fun d => !d.subscriber.failing

theorem received_announcement (s : TokenStore) (event : Event) :
    received (announcement s.subscribers event) = s.deliveries event := by
  rw [received, announcement, List.filter_map]
  rfl

/-- **A call of a store is its attempt**, when those subscribers fail that are said to. -/
theorem call_eq (m : Machine) (call : Call) :
    (m.state.call call).1 = (after m call).state ∧
      received m.log ++ (m.state.call call).2 = received (after m call).log := by
  have happend : ∀ a b : List Delivery, received (a ++ b) = received a ++ received b :=
    fun _ _ => List.filter_append _ _
  rw [log_after, happend]
  cases call with
  | set token value =>
    refine ⟨rfl, ?_⟩
    rw [TokenStore.take, Option.toList_some, List.flatMap_singleton, received_announcement]
    rfl
  | setMode mode =>
    refine ⟨rfl, ?_⟩
    rw [TokenStore.take, Option.toList_some, List.flatMap_singleton, received_announcement]
    rfl
  | subscribe name failing => exact ⟨rfl, rfl⟩
  | unsubscribe handle => exact ⟨rfl, rfl⟩

theorem callAll_eq (m : Machine) (calls : List Call) :
    (m.state.callAll calls).1 = (calls.foldl after m).state ∧
      received m.log ++ (m.state.callAll calls).2 =
        received (calls.foldl after m).log := by
  induction calls generalizing m with
  | nil => exact ⟨rfl, List.append_nil _⟩
  | cons call rest ih =>
    obtain ⟨hstore, hheard⟩ := call_eq m call
    obtain ⟨hstores, hothers⟩ := ih (after m call)
    rw [List.foldl_cons, ← hstores, ← hothers, ← hheard, ← hstore, List.append_assoc]
    exact ⟨rfl, rfl⟩

theorem heardBy_received {u : Subscriber} (hu : u.failing = false) (deliveries : List Delivery) :
    heardBy u (received deliveries) = heardBy u deliveries := by
  rw [heardBy, received, List.filter_filter, heardBy]
  congr 1
  apply List.filter_congr
  intro d _
  by_cases h : d.subscriber = u
  · simp [h, hu]
  · simp [h]

/-! ## Runs -/

/-- How a run of calls of a new store ends, and what it comes to. -/
def attempted (conduct : Conduct ε) (defaults : Tokens) (mode : Mode) (calls : List Call) :
    Except ε Unit × Machine :=
  outcome (attemptAll conduct calls) { state := TokenStore.fresh defaults mode }

theorem attempted_eq (conduct : Conduct ε) (defaults : Tokens) (mode : Mode) (calls : List Call) :
    attempted conduct defaults mode calls =
      (.ok (), calls.foldl after { state := TokenStore.fresh defaults mode }) :=
  outcome_attemptAll conduct _ calls

/-- A run of calls, as telling those who have subscribed. -/
theorem attempted_run (conduct : Conduct ε) (defaults : Tokens) (mode : Mode) (calls : List Call) :
    (attempted conduct defaults mode calls).2 =
      announcer.run { state := TokenStore.fresh defaults mode } calls :=
  congrArg Prod.snd (attempted_eq conduct defaults mode calls)

/-- **A store's operations are its attempts**, when those subscribers fail that are said to. -/
theorem callAll_attempted (conduct : Conduct ε) (defaults : Tokens) (mode : Mode)
    (calls : List Call) :
    (TokenStore.fresh defaults mode).callAll calls =
      ((attempted conduct defaults mode calls).2.state,
        received (attempted conduct defaults mode calls).2.log) := by
  obtain ⟨hstore, hheard⟩ := callAll_eq { state := TokenStore.fresh defaults mode } calls
  rw [attempted_run]
  exact Prod.ext hstore hheard

/-- **A subscriber hears** the events from its subscription to the first use of its handle. -/
theorem heardBy_attempted (conduct : Conduct ε) (defaults : Tokens) (mode : Mode)
    (calls : List Call) (name : String) (failing : Bool) (later : List Call) :
    let subscribed := (attempted conduct defaults mode calls).2.state.subscribe name failing
    heardBy ⟨subscribed.2, name, failing⟩
        (attempted conduct defaults mode (calls ++ .subscribe name failing :: later)).2.log =
      subscribed.1.eventsUntil subscribed.2 later := by
  have hfresh : announcer.Sound { state := TokenStore.fresh defaults mode } :=
    Registry.sound_of_empty rfl
  have hheard := Announcer.heard_subscribed hfresh (fun _ => rfl) calls
    (.subscribe name failing) (name, failing) rfl later
  dsimp only at hheard
  rw [← attempted_run conduct, ← attempted_run conduct, saidDuring_eq] at hheard
  exact hheard

/-- **Every subscriber is told of the writes from its subscription to the first use of its handle**,
each once and in order, and of no others, whoever fails and whenever.  No call fails, and tokens and
mode are what the writes alone make them.  With subscribers that fail as they are said to, a store's
operations come to the same, and those who do not fail hear what they are told. -/
theorem events_delivered (conduct : Conduct ε) (defaults : Tokens) (mode : Mode)
    (calls : List Call) :
    let run := attempted conduct defaults mode
    (run calls).1 = .ok () ∧
      ((run calls).2.state.tokens, (run calls).2.state.mode) =
        calls.foldl Call.applied (defaults, mode) ∧
      (∀ name failing later,
        let subscribed := (run calls).2.state.subscribe name failing
        heardBy ⟨subscribed.2, name, failing⟩
            (run (calls ++ .subscribe name failing :: later)).2.log =
          subscribed.1.eventsUntil subscribed.2 later) ∧
      (TokenStore.fresh defaults mode).callAll calls =
        ((run calls).2.state, received (run calls).2.log) ∧
      ∀ name later,
        let subscribed := ((TokenStore.fresh defaults mode).callAll calls).1.subscribe name false
        heardBy ⟨subscribed.2, name, false⟩
            ((TokenStore.fresh defaults mode).callAll
              (calls ++ .subscribe name false :: later)).2 =
          subscribed.1.eventsUntil subscribed.2 later := by
  intro run
  refine ⟨?_, ?_, heardBy_attempted conduct defaults mode calls,
    callAll_attempted conduct defaults mode calls, ?_⟩
  · exact congrArg Prod.fst (attempted_eq conduct defaults mode calls)
  · dsimp only [run]
    rw [attempted_run]
    exact foldl_after_state calls _
  · intro name later
    dsimp only
    rw [callAll_attempted conduct, callAll_attempted conduct]
    exact (heardBy_received rfl _).trans
      (heardBy_attempted conduct defaults mode calls name false later)

end Restyle.Store
