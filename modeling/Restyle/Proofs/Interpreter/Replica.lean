import Restyle.Proofs.Interpreter.ChangeLog

/-!
# A subscriber's copy of the store

A subscriber may start with a copy of the tokens and the mode and bring it up to date with every
event that it hears.  Every write is told with the value that the store keeps, whether it is made
directly or by a command, and also by a command that comes to a fault.  So the copy is at any time
what the store holds.

Two calls are not told in this way.  A reset changes tokens and mode and nobody hears of it; and a
token called "mode" is told under the name of the mode.

* `StoreCall`, `Session.perform`, `Session.performAll` — what a store is asked to do.
* `tracks_performWrites` — the copy after the writes of a plan.
* `copy_follows_store` — the copy after every call.
* `reset_not_followed` — the copy after a reset.
-/

set_option autoImplicit false

namespace Restyle.Interpreter

open Restyle.Color Restyle.Store Restyle.Target

/-! ## Calls -/

/-- What a store is asked to do: directly, or by a command. -/
inductive StoreCall where
  | set (token value : String)
  | setMode (mode : Mode)
  | reset
  | command (call : Call)

/-- Carries out a call: the session afterwards, and what the subscribers heard. -/
def Session.perform (s : Session) : StoreCall → Session × List Delivery
  | .set token value =>
    let (store, heard) := s.store.set token value
    ({ s with store }, heard)
  | .setMode mode =>
    let (store, heard) := s.store.setMode mode
    ({ s with store }, heard)
  | .reset => ({ s with store := s.store.reset }, [])
  | .command call =>
    let report := s.serve call.request call.selection call.key
    (report.session, report.heard)

/-- Carries out calls one after another. -/
def Session.performAll (s : Session) : List StoreCall → Session × List Delivery
  | [] => (s, [])
  | call :: rest =>
    let (s, heard) := s.perform call
    let (s, others) := s.performAll rest
    (s, heard ++ others)

/-- A call that subscribers are told of, under a name of its own. -/
def StoreCall.Told : StoreCall → Prop
  | .set token _ => token ≠ "mode"
  | .setMode _ => True
  | .reset => False
  | .command _ => True

/-! ## Copies -/

/-- The tokens and the mode that a store holds. -/
def held (store : TokenStore) : Tokens × Mode := (store.tokens, store.mode)

/-- A copy of the tokens and the mode after an event. -/
def followed (copy : Tokens × Mode) (e : Event) : Tokens × Mode :=
  Change.apply copy ⟨e.token, e.oldValue, e.newValue⟩

/-- A write of the mode, or of a token that is not called after it. -/
def Write.Clear : Write → Prop
  | .token name _ => name ≠ "mode"
  | .mode _ => True

/-- A store keeps a subscriber's copy up to date over what it does: the subscriber, which hears
every event once, goes from what the store held before to what it holds afterwards. -/
structure Tracks (u : Subscriber) (before after : TokenStore) (heard : List Delivery) : Prop where
  copy : (heardBy u heard).foldl followed (held before) = held after
  subscribers : after.subscribers = before.subscribers

variable {u : Subscriber} {store : TokenStore}

theorem Tracks.nothing (u : Subscriber) (store : TokenStore) : Tracks u store store [] :=
  ⟨rfl, rfl⟩

/-- One thing after another. -/
theorem Tracks.trans {before between after : TokenStore} {heard others : List Delivery}
    (h : Tracks u before between heard) (k : Tracks u between after others) :
    Tracks u before after (heard ++ others) where
  copy := by rw [heardBy_append, List.foldl_append, h.copy, k.copy]
  subscribers := k.subscribers.trans h.subscribers

/-! ## Writes -/

/-- **One write**, told with the value that is kept. -/
theorem tracks_perform {w : Write} (hw : w.Clear) (hu : store.subscribers.count u = 1)
    (hf : u.failing = false) : Tracks u store (w.perform store).1 (w.perform store).2.2 where
  copy := by
    cases w with
    | token name value =>
      have hname : name ≠ "mode" := hw
      simp only [Write.perform, TokenStore.set, heardBy_deliveries hu hf, List.foldl_cons,
        List.foldl_nil, followed, Change.apply, if_neg hname, held]
    | mode m =>
      simp only [Write.perform, TokenStore.setMode, heardBy_deliveries hu hf, List.foldl_cons,
        List.foldl_nil, followed, Change.apply, if_true, ofName?_name, Option.getD_some, held]
  subscribers := subscribers_perform w store

/-- The writes of a plan. -/
theorem tracks_performWrites {l : List Write} (h : ∀ w ∈ l, w.Clear)
    (hu : store.subscribers.count u = 1) (hf : u.failing = false) :
    Tracks u store (performWrites store l).1 (performWrites store l).2.2 := by
  induction l generalizing store with
  | nil => exact .nothing u store
  | cons w rest ih =>
    obtain ⟨hw, hrest⟩ := List.forall_mem_cons.1 h
    rw [performWrites_cons]
    refine (tracks_perform hw hu hf).trans (ih hrest ?_)
    rw [subscribers_perform]
    exact hu

/-- No command writes a token that is called after the mode. -/
theorem Planned.clear {rule : ForegroundRule} {plan : Plan} (h : Planned rule store plan) :
    ∀ w ∈ plan.writes, w.Clear := by
  refine h.forall_writes (P := Write.Clear) ?_ ?_ ?_
  · intro m
    trivial
  · intro a ha
    exact token_ne_mode _ ha.styled
  · intro d hd f hf v _
    have hplain := (foreground_of_mem d hd f hf).2.1
    rintro rfl
    cases hplain

/-! ## Commands and other calls -/

/-- What is heard of a plan that is carried out, with a fault or without. -/
theorem carryOut_heard (s : Session) (plan : Plan) (key : Option String) :
    (s.carryOut plan key).heard = (performWrites s.store plan.writes).2.2 := by
  unfold Session.carryOut
  dsimp only
  split <;> rfl

/-- **One call.** -/
theorem tracks_call {s : Session} {call : StoreCall} (hc : call.Told)
    (hu : s.store.subscribers.count u = 1) (hf : u.failing = false) :
    Tracks u s.store (s.perform call).1.store (s.perform call).2 := by
  cases call with
  | set token value => exact tracks_perform (w := .token token value) hc hu hf
  | setMode mode => exact tracks_perform (w := .mode mode) trivial hu hf
  | reset => exact hc.elim
  | command call =>
    have hplan := planned_planRequest s.settings s.store call.request call.selection
    simp only [Session.perform, Session.serve_eq, (carryOut_store _ _ _).1, carryOut_heard]
    exact tracks_performWrites hplan.clear hu hf

/-- Calls one after another. -/
theorem tracks_calls {s : Session} {calls : List StoreCall} (h : ∀ call ∈ calls, call.Told)
    (hu : s.store.subscribers.count u = 1) (hf : u.failing = false) :
    Tracks u s.store (s.performAll calls).1.store (s.performAll calls).2 := by
  induction calls generalizing s with
  | nil => exact .nothing u s.store
  | cons call rest ih =>
    obtain ⟨hcall, hrest⟩ := List.forall_mem_cons.1 h
    have hfirst := tracks_call hcall hu hf
    refine hfirst.trans (ih hrest ?_)
    rw [hfirst.subscribers]
    exact hu

/-- **A subscriber's copy follows the store**: after every call, a copy of what the store held at
first, brought up to date with every event that the subscriber heard, is what the store holds. -/
theorem copy_follows_store (s : Session) (u : Subscriber) (calls : List StoreCall)
    (hu : s.store.subscribers.count u = 1) (hf : u.failing = false)
    (h : ∀ call ∈ calls, call.Told) :
    ∀ done, done <+: calls →
      (heardBy u (s.performAll done).2).foldl followed (s.store.tokens, s.store.mode) =
        ((s.performAll done).1.store.tokens, (s.performAll done).1.store.mode) := by
  intro done hd
  exact (tracks_calls (fun call hc => h call (hd.subset hc)) hu hf).copy

/-- A length, the mode, a preset, and a colour as it is not stored. -/
theorem copy_follows_preset :
    let s : Session :=
      { store := ((TokenStore.fresh defaultTokens .light).subscribe "panel" false).1 }
    let u : Subscriber := { handle := 0, name := "panel" }
    let calls : List StoreCall := [.set "radius" "1rem", .setMode .dark,
      .command { request := .text "make it pop" }, .set "card" "#fff"]
    (heardBy u (s.performAll calls).2).foldl followed (s.store.tokens, s.store.mode) =
        ((s.performAll calls).1.store.tokens, (s.performAll calls).1.store.mode) ∧
      (s.performAll calls).1.store.get "card" = "0 0% 100%" := by
  intro s u calls
  have htold : ∀ call ∈ calls, call.Told := by
    simp only [calls, List.forall_mem_cons]
    exact ⟨(by decide : "radius" ≠ "mode"), trivial, trivial, (by decide : "card" ≠ "mode"),
      List.forall_mem_nil _⟩
  refine ⟨copy_follows_store s u calls (by decide +kernel) rfl htold calls (List.prefix_refl _), ?_⟩
  decide +kernel

/-- A reset is not heard: the copy keeps the length that the store has gone back on. -/
theorem reset_not_followed :
    let s : Session :=
      { store := ((TokenStore.fresh defaultTokens .light).subscribe "panel" false).1 }
    let u : Subscriber := { handle := 0, name := "panel" }
    let after := s.performAll [.set "radius" "1rem", .reset]
    let copy := (heardBy u after.2).foldl followed (s.store.tokens, s.store.mode)
    copy.1.get "radius" = "1rem" ∧ after.1.store.get "radius" = "0.5rem" ∧
      copy ≠ (after.1.store.tokens, after.1.store.mode) := by
  decide +kernel

/-- A token called after the mode is taken for the mode. -/
example :
    let s : Session :=
      { store := ((TokenStore.fresh defaultTokens .light).subscribe "panel" false).1 }
    let u : Subscriber := { handle := 0, name := "panel" }
    let after := s.performAll [.set "mode" "dark"]
    ((heardBy u after.2).foldl followed (s.store.tokens, s.store.mode)).2 = .dark ∧
      after.1.store.mode = .light := by
  decide +kernel

end Restyle.Interpreter
