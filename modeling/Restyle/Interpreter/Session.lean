import Restyle.Interpreter.Plan
import Restyle.Sync.Scheduler

/-!
# Sessions

A session carries out plans on a token store, and hands theme patches to a collaborator.  A
collaborator that fails cannot make a command fail.

* `Session.execute` — carries out a text.
* `Session.executeIntent` — carries out an intent.
-/

set_option autoImplicit false

namespace Restyle.Interpreter

open Restyle.Command Restyle.Store Restyle.Sync Restyle.Target

/-! ## The collaborator -/

/-- Who is handed the theme patches. -/
inductive Collaborator where
  | absent
  /-- Keeps what it was handed; `fails n` says whether the call after `n` calls fails then. -/
  | recorder (fails : Nat → Bool) (received : List (String × Theme))
  | scheduler (s : Scheduler)

/-- Hands a patch over: the collaborator afterwards, and whether it failed. -/
def Collaborator.schedule (key : String) (patch : Theme) : Collaborator → Collaborator × Bool
  | .absent => (.absent, false)
  | .recorder fails received => (.recorder fails (received ++ [(key, patch)]), fails received.length)
  | .scheduler s => (.scheduler (s.schedule key patch false).1, false)

/-- Hands a patch over, if there is a key and something to keep.  A failure is left aside. -/
def Collaborator.persist (c : Collaborator) (key : Option String) (patch : Theme) : Collaborator :=
  match key with
  | some key => if key = "" || patch.isEmpty then c else (c.schedule key patch).1
  | none => c

/-! ## Carrying out a plan -/

/-- Makes one write: the store afterwards, the change as it was asked for, and what the
subscribers heard. -/
def Write.perform (store : TokenStore) : Write → TokenStore × Change × List Delivery
  | .token name value =>
    let (after, heard) := store.set name value
    (after, ⟨name, store.get name, value⟩, heard)
  | .mode m =>
    let (after, heard) := store.setMode m
    (after, ⟨"mode", store.mode.name, m.name⟩, heard)

/-- Makes writes in order. -/
def performWrites (store : TokenStore) : List Write → TokenStore × List Change × List Delivery
  | [] => (store, [], [])
  | w :: rest =>
    let (store, change, heard) := w.perform store
    let (store, changes, others) := performWrites store rest
    (store, change :: changes, heard ++ others)

/-- A token store with the settings of commands and the collaborator. -/
structure Session where
  settings : Settings := {}
  store : TokenStore := {}
  collaborator : Collaborator := .absent

/-- What a command came to. -/
structure Report where
  outcome : Except Fault Result
  session : Session
  /-- What the store's subscribers heard. -/
  heard : List Delivery

namespace Session

/-- Carries out a plan. -/
def carryOut (s : Session) (plan : Plan) (key : Option String) : Report :=
  let (store, changes, heard) := performWrites s.store plan.writes
  match plan.reply with
  | .error fault => { outcome := .error fault, session := { s with store }, heard }
  | .ok reply =>
    { outcome := .ok { reply with changes }
      session := { s with store, collaborator := s.collaborator.persist key plan.patch }
      heard }

/-- Carries out an intent. -/
def executeIntent (s : Session) (intent : Intent) (selection : Option Selection)
    (key : Option String) : Report :=
  s.carryOut (planIntent s.settings s.store intent selection) key

/-- Carries out a text. -/
def execute (s : Session) (text : String) (selection : Option Selection) (key : Option String) :
    Report :=
  s.carryOut (planText s.settings s.store text selection) key

end Session

end Restyle.Interpreter
