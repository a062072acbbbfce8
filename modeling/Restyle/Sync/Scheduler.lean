import Restyle.Sync.Folder

/-!
# Writing themes after a pause

Patches for a key are collected until its timer goes off, and are then written as one.  A new
patch for a key starts its timer anew.  Subscribers are told when a write begins and how it
ended; a failed write is reported and not repeated, and a subscriber that fails disturbs
nobody.

Every operation gives the scheduler after it, and what happened in order.

* `Scheduler.schedule` — collects a patch, or writes it at once.
* `Scheduler.flush`, `Scheduler.shutdown` — writes what is collected.
* `Scheduler.fire` — the timer of a key goes off.
-/

set_option autoImplicit false

namespace Restyle.Sync

/-! ## Where themes go -/

/-- Why a write failed. -/
inductive WriteError where
  | diskFull
  deriving DecidableEq, Repr

/-- The wording of a write error. -/
def WriteError.message : WriteError → String
  | .diskFull => "disk full"

/-- Where themes are written: to a folder, or nowhere.  Writes for some keys may fail. -/
structure Sink where
  folder : Option Folder := none
  failing : List String := []

/-- Writes a patch. -/
def Sink.write (sink : Sink) (key : String) (patch : Theme) : Except WriteError Sink :=
  if sink.failing.contains key then .error .diskFull
  else .ok { sink with folder := sink.folder.map fun f => f.write key patch }

/-! ## What happens -/

/-- The stages of a write. -/
inductive Status where
  | saving
  | saved
  | error
  deriving DecidableEq, Repr

/-- The name of a stage. -/
def Status.name : Status → String
  | .saving => "saving"
  | .saved => "saved"
  | .error => "error"

/-- A subscription to the stages of writes. -/
structure Callback where
  /-- What a subscription is cancelled by; no two of a scheduler have the same. -/
  handle : Nat
  name : String
  /-- Whether it fails after it was told. -/
  failing : Bool := false
  deriving DecidableEq, Repr

/-- Something that happened during an operation. -/
inductive SyncEvent where
  /-- A patch reached the sink. -/
  | written (key : String) (patch : Theme)
  /-- A subscriber was told of a stage. -/
  | notified (callback : Callback) (status : Status) (key : String) (error : Option WriteError)

/-- A subscriber is told of a stage: what happened, and whether it failed then. -/
def Callback.notify (c : Callback) (status : Status) (key : String) (error : Option WriteError) :
    SyncEvent × Bool :=
  (.notified c status key error, c.failing)

/-! ## The scheduler -/

/-- Collected patches, running timers, subscribers, and where themes go. -/
structure Scheduler where
  /-- The merged patch of every key that waits, in the order in which the keys came. -/
  collected : List (String × Theme) := []
  /-- The keys whose timer runs. -/
  timers : List String := []
  callbacks : List Callback := []
  nextHandle : Nat := 0
  sink : Sink := {}

namespace Scheduler

/-- Tells all subscribers; their failures are left aside. -/
def notifyAll (s : Scheduler) (status : Status) (key : String) (error : Option WriteError) :
    List SyncEvent :=
  s.callbacks.map fun c => (c.notify status key error).1

/-- Writes a patch and tells the subscribers. -/
def perform (s : Scheduler) (key : String) (patch : Theme) : Scheduler × List SyncEvent :=
  let start := s.notifyAll .saving key none ++ [.written key patch]
  match s.sink.write key patch with
  | .ok sink => ({ s with sink }, start ++ s.notifyAll .saved key none)
  | .error e => (s, start ++ s.notifyAll .error key (some e))

/-- Writes several patches, one after another. -/
def performAll (s : Scheduler) : List (String × Theme) → Scheduler × List SyncEvent
  | [] => (s, [])
  | (key, patch) :: rest =>
    let (s, first) := s.perform key patch
    let (s, others) := s.performAll rest
    (s, first ++ others)

/-- The patch that waits for a key. -/
def pending? (s : Scheduler) (key : String) : Option Theme := Assoc.get? s.collected key

/-- Whether patches wait. -/
def hasPending (s : Scheduler) : Bool := !s.collected.isEmpty

/-- Stops the timer of a key. -/
def stopTimer (s : Scheduler) (key : String) : Scheduler :=
  { s with timers := s.timers.filter (· != key) }

/-- Takes a key's patch out of the collection, and stops its timer. -/
def release (s : Scheduler) (key : String) : Scheduler :=
  { s.stopTimer key with collected := Assoc.erase key s.collected }

/-- Collects a patch and starts the key's timer anew, or writes it at once with what was
collected before. -/
def schedule (s : Scheduler) (key : String) (patch : Theme) (immediate : Bool) :
    Scheduler × List SyncEvent :=
  let merged := Document.mergeFields ((s.pending? key).getD []) patch
  if immediate then (s.release key).perform key merged
  else
    let s := s.stopTimer key
    ({ s with collected := Assoc.put key merged s.collected, timers := s.timers ++ [key] }, [])

/-- Collects a document, which has to be a mapping.  When it is none the timer of its key has
been stopped already. -/
def scheduleDocument (s : Scheduler) (key : String) (patch : Document) (immediate : Bool) :
    Except Document.MergeError Unit × Scheduler × List SyncEvent :=
  match patch with
  | .mapping fields => (.ok (), s.schedule key fields immediate)
  | patch => (.error (.notEntries patch.kind), s.stopTimer key, [])

/-- Writes the patch of one key, if one waits. -/
def flushKey (s : Scheduler) (key : String) : Scheduler × List SyncEvent :=
  match s.pending? key with
  | some patch => (s.release key).perform key patch
  | none => (s.stopTimer key, [])

/-- Writes all patches that wait, in the order in which their keys came. -/
def flushAll (s : Scheduler) : Scheduler × List SyncEvent :=
  let keys := Assoc.keys s.collected
  let emptied : Scheduler :=
    { s with collected := [], timers := s.timers.filter fun k => !keys.contains k }
  emptied.performAll s.collected

/-- Writes the patch of one key, or of all. -/
def flush (s : Scheduler) : Option String → Scheduler × List SyncEvent
  | some key => s.flushKey key
  | none => s.flushAll

/-- The timer of a key goes off. -/
def fire (s : Scheduler) (key : String) : Scheduler × List SyncEvent := s.flushKey key

/-- Stops all timers; what waits is written first, or dropped. -/
def shutdown (s : Scheduler) (flush : Bool) : Scheduler × List SyncEvent :=
  let (s, events) := if flush then s.flushAll else (s, [])
  ({ s with collected := [], timers := [] }, events)

/-- Adds a subscriber, and gives the handle of its subscription. -/
def subscribe (s : Scheduler) (name : String) (failing : Bool) : Scheduler × Nat :=
  ({ s with
      callbacks := s.callbacks ++ [{ handle := s.nextHandle, name, failing }]
      nextHandle := s.nextHandle + 1 },
    s.nextHandle)

/-- Cancels the subscription of a handle, if it still stands. -/
def unsubscribe (s : Scheduler) (handle : Nat) : Scheduler :=
  { s with callbacks := s.callbacks.filter fun c => c.handle != handle }

end Scheduler

end Restyle.Sync
