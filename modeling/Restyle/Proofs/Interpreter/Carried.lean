import Restyle.Interpreter.Session
import Restyle.Proofs.Interpreter.Assignment

/-!
# Carrying out commands

A command is given as a text or as an intent.  Its plan is carried out write by write, and a
report without a fault says everything that was done.

* `Session.serve`, `Session.serveAll` — one command, and commands one after another.
* `Session.reports` — what each of them comes to.
* `carryOut_ok` — what carrying out a plan comes to when there is no fault.
* `performWrites_induction` — what every write keeps, all of them keep.
-/

set_option autoImplicit false

namespace Restyle.Interpreter

open Restyle.Color Restyle.Command Restyle.Store Restyle.Target

/-! ## Requests -/

/-- A command as it is given. -/
inductive Request where
  | text (text : String)
  | intent (intent : Intent)
  deriving DecidableEq, Repr

/-- The plan of a request. -/
def planRequest (settings : Settings) (store : TokenStore) (request : Request)
    (selection : Option Selection) : Plan :=
  match request with
  | .text text => planText settings store text selection
  | .intent intent => planIntent settings store intent selection

/-- Carries out a request. -/
def Session.serve (s : Session) (request : Request) (selection : Option Selection)
    (key : Option String) : Report :=
  match request with
  | .text text => s.execute text selection key
  | .intent intent => s.executeIntent intent selection key

theorem Session.serve_eq (s : Session) (request : Request) (selection : Option Selection)
    (key : Option String) :
    s.serve request selection key =
      s.carryOut (planRequest s.settings s.store request selection) key := by
  cases request <;> rfl

theorem planned_planRequest (settings : Settings) (store : TokenStore) (request : Request)
    (selection : Option Selection) :
    Planned settings.foreground store (planRequest settings store request selection) := by
  cases request with
  | text text => exact planned_planText settings store text selection
  | intent intent => exact planned_planIntent settings store intent selection

/-- A command with the selection and the key that it is given with. -/
structure Call where
  request : Request
  selection : Option Selection := none
  key : Option String := none

/-- The session after commands, whether they succeed or not. -/
def Session.serveAll (s : Session) (calls : List Call) : Session :=
  calls.foldl (fun s call => (s.serve call.request call.selection call.key).session) s

theorem Session.serveAll_cons (s : Session) (call : Call) (rest : List Call) :
    s.serveAll (call :: rest) =
      (s.serve call.request call.selection call.key).session.serveAll rest := rfl

/-- What commands one after another come to. -/
def Session.reports (s : Session) : List Call → List Report
  | [] => []
  | call :: rest =>
    let report := s.serve call.request call.selection call.key
    report :: report.session.reports rest

/-! ## Reports -/

variable {s : Session} {key : Option String} {r : Result}

/-- What carrying out a plan comes to when there is no fault. -/
theorem carryOut_ok {plan : Plan} (h : (s.carryOut plan key).outcome = .ok r) :
    plan.reply = .ok r.toReply ∧ r.changes = (performWrites s.store plan.writes).2.1 ∧
      (s.carryOut plan key).session = { s with
        store := (performWrites s.store plan.writes).1
        collaborator := s.collaborator.persist key plan.patch } ∧
      (s.carryOut plan key).heard = (performWrites s.store plan.writes).2.2 := by
  unfold Session.carryOut at h ⊢
  dsimp only at h ⊢
  split at h
  · cases h
  · rename_i reply hr
    cases h
    exact ⟨hr, rfl, rfl, rfl⟩

/-- The store afterwards, with a fault or without. -/
theorem carryOut_store (s : Session) (plan : Plan) (key : Option String) :
    (s.carryOut plan key).session.store = (performWrites s.store plan.writes).1 ∧
      (s.carryOut plan key).session.settings = s.settings := by
  unfold Session.carryOut
  dsimp only
  split <;> exact ⟨rfl, rfl⟩

/-- Commands leave the settings alone. -/
theorem Session.settings_serve (s : Session) (request : Request) (selection : Option Selection)
    (key : Option String) : (s.serve request selection key).session.settings = s.settings := by
  rw [Session.serve_eq, (carryOut_store _ _ _).2]

theorem exists_ok_of_map {α : Type} {o : Except Fault Result} {f : Result → α} {b : α}
    (h : o.toOption.map f = some b) : ∃ r, o = .ok r ∧ f r = b := by
  cases o with
  | error fault => cases h
  | ok r => exact ⟨r, rfl, Option.some.inj h⟩

theorem exists_ok {o : Except Fault Result} {b : Bool}
    (h : o.toOption.map (·.success) = some b) : ∃ r, o = .ok r ∧ r.success = b :=
  exists_ok_of_map h

/-! ## Writes -/

theorem performWrites_cons (store : TokenStore) (w : Write) (rest : List Write) :
    performWrites store (w :: rest) =
      ((performWrites (w.perform store).1 rest).1,
        (w.perform store).2.1 :: (performWrites (w.perform store).1 rest).2.1,
        (w.perform store).2.2 ++ (performWrites (w.perform store).1 rest).2.2) := rfl

theorem performWrites_append (store : TokenStore) (l m : List Write) :
    (performWrites store (l ++ m)).1 = (performWrites (performWrites store l).1 m).1 := by
  induction l generalizing store with
  | nil => rfl
  | cons w rest ih =>
    rw [List.cons_append, performWrites_cons, performWrites_cons]
    exact ih (w.perform store).1

/-- The name that a write is reported under. -/
def Write.target : Write → String
  | .token name _ => name
  | .mode _ => "mode"

/-- What writes ask for: tokens with values. -/
def Write.asked : Write → String × String
  | .token name value => (name, value)
  | .mode m => ("mode", m.name)

theorem asked_performWrites (store : TokenStore) (l : List Write) :
    (performWrites store l).2.1.map (fun c => (c.token, c.newValue)) = l.map Write.asked := by
  induction l generalizing store with
  | nil => rfl
  | cons w rest ih =>
    rw [performWrites_cons, List.map_cons, List.map_cons, ih]
    cases w <;> rfl

theorem Write.asked_fst (w : Write) : w.asked.1 = w.target := by
  cases w <;> rfl

theorem changes_performWrites (store : TokenStore) (l : List Write) :
    (performWrites store l).2.1.map (·.token) = l.map Write.target := by
  have hasked := congrArg (List.map Prod.fst) (asked_performWrites store l)
  rw [List.map_map, List.map_map] at hasked
  simpa only [Function.comp_def, Write.asked_fst] using hasked

/-- Every change tells the token of a write. -/
theorem exists_write_of_change {plan : Plan} (h : (s.carryOut plan key).outcome = .ok r)
    {c : Change} (hc : c ∈ r.changes) : ∃ w ∈ plan.writes, w.target = c.token := by
  have hmem : c.token ∈ r.changes.map (·.token) := List.mem_map_of_mem hc
  rw [(carryOut_ok h).2.1, changes_performWrites] at hmem
  exact List.mem_map.1 hmem

theorem get_perform (store : TokenStore) (name value token : String) :
    ((Write.token name value).perform store).1.get token =
      if token = name then TokenStore.stored name value else store.get token := by
  rw [TokenStore.get, Tokens.get]
  simp only [Write.perform, TokenStore.set, Tokens.put, Assoc.get?_put]
  split
  · rfl
  · rfl

/-- The writes of a foreground leave all other tokens alone. -/
theorem get_foregroundWrites {rule : ForegroundRule} {store : TokenStore}
    {foreground : Option String} {token : String} (h : token ∉ foreground) (surface : String) :
    (performWrites store (foregroundWrites rule foreground surface)).1.get token =
      store.get token := by
  unfold foregroundWrites
  split
  · rename_i g v hv
    have hne : token ≠ g := by
      rintro rfl
      exact h rfl
    rw [performWrites_cons]
    exact (get_perform store g v token).trans (if_neg hne)
  · rfl

/-- What every write keeps, all of them keep. -/
theorem performWrites_induction {P : TokenStore → Prop} {l : List Write}
    (step : ∀ w ∈ l, ∀ store, P store → P (w.perform store).1) {store : TokenStore}
    (h : P store) : P (performWrites store l).1 := by
  induction l generalizing store with
  | nil => exact h
  | cons w rest ih =>
    rw [performWrites_cons]
    apply ih
    · intro v hv
      exact step v (List.mem_cons_of_mem _ hv)
    · exact step w List.mem_cons_self store h

/-- A write leaves the subscribers alone. -/
theorem subscribers_perform (w : Write) (store : TokenStore) :
    (w.perform store).1.subscribers = store.subscribers := by
  cases w <;> rfl

end Restyle.Interpreter
