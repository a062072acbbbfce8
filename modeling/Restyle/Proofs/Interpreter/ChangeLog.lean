import Restyle.Proofs.Interpreter.Carried

/-!
# The log of changes

A command reports the values that it asked for, and the store tells of the values that it
keeps.  When the two foregrounds are in their stored form these are the same, and the report is
a log of the command: every subscriber hears it change by change, and applying the changes to
the tokens and the mode before gives those after.

* `change_log_faithful` — the changes of a command are what is heard and what is done.
-/

set_option autoImplicit false

namespace Restyle.Interpreter

open Restyle.Color Restyle.Store Restyle.Target

/-! ## Changes as events and as steps -/

/-- A change as subscribers hear of it. -/
def Change.event (c : Change) : Event := ⟨c.token, c.oldValue, c.newValue⟩

/-- Tokens and mode after a change; the name "mode" stands for the mode. -/
def Change.apply (state : Tokens × Mode) (c : Change) : Tokens × Mode :=
  if c.token = "mode" then (state.1, (Mode.ofName? c.newValue).getD state.2)
  else (state.1.put c.token c.newValue, state.2)

/-- What one subscriber heard. -/
def heardBy (u : Subscriber) (heard : List Delivery) : List Event :=
  (heard.filter (·.subscriber = u)).map (·.event)

theorem heardBy_append (u : Subscriber) (a b : List Delivery) :
    heardBy u (a ++ b) = heardBy u a ++ heardBy u b := by
  simp [heardBy]

/-- What is told to several subscribers is heard by each as often as it is among them. -/
theorem heardBy_told (u : Subscriber) (e : Event) (l : List Subscriber) :
    heardBy u (l.map fun v => ⟨v, e⟩) = List.replicate (l.count u) e := by
  have hfilter : heardBy u (l.map fun v => ⟨v, e⟩) = (l.filter (· = u)).map fun _ => e := by
    simp only [heardBy, List.filter_map, List.map_map]
    rfl
  rw [hfilter, List.filter_eq, List.map_replicate]

/-- A subscriber that does not fail hears every event once. -/
theorem heardBy_deliveries {store : TokenStore} {u : Subscriber}
    (hu : store.subscribers.count u = 1) (hf : u.failing = false) (e : Event) :
    heardBy u (store.deliveries e) = [e] := by
  have hcount : (store.subscribers.filter fun v => !v.failing).count u = 1 := by
    rw [List.count_filter (by simp [hf]), hu]
  rw [TokenStore.deliveries, heardBy_told, hcount]
  rfl

/-! ## Writes that are kept as they are -/

/-- A write that the store keeps as it is, to a token that is not called after the mode. -/
def Write.Kept : Write → Prop
  | .token name value => TokenStore.stored name value = value ∧ name ≠ "mode"
  | .mode _ => True

theorem ofName?_name (m : Mode) : Mode.ofName? m.name = some m := by
  cases m <;> decide

/-- One write that is kept as it is. -/
theorem perform_kept {w : Write} (hw : w.Kept) (store : TokenStore) :
    (w.perform store).2.2 = store.deliveries (w.perform store).2.1.event ∧
      (w.perform store).2.1.apply (store.tokens, store.mode) =
        ((w.perform store).1.tokens, (w.perform store).1.mode) := by
  cases w with
  | token name value =>
    obtain ⟨hs, hn⟩ := hw
    simp only [Write.perform, TokenStore.set, hs, Change.event, Change.apply, if_neg hn, and_self]
  | mode m =>
    simp only [Write.perform, TokenStore.setMode, Change.event, Change.apply, if_true,
      ofName?_name, Option.getD_some, and_self]

/-- Writes that are kept as they are. -/
theorem performWrites_kept {l : List Write} (h : ∀ w ∈ l, w.Kept) (store : TokenStore) :
    (performWrites store l).2.2 =
        (performWrites store l).2.1.flatMap (fun c => store.deliveries c.event) ∧
      (performWrites store l).2.1.foldl Change.apply (store.tokens, store.mode) =
        ((performWrites store l).1.tokens, (performWrites store l).1.mode) := by
  induction l generalizing store with
  | nil => exact ⟨rfl, rfl⟩
  | cons w rest ih =>
    obtain ⟨hheard, hstate⟩ := perform_kept (h w List.mem_cons_self) store
    obtain ⟨irest, istate⟩ := ih (fun v hv => h v (List.mem_cons_of_mem _ hv)) (w.perform store).1
    -- the subscribers are those of the store before
    have hsubs : ∀ e, (w.perform store).1.deliveries e = store.deliveries e := by
      intro e
      rw [TokenStore.deliveries, subscribers_perform]
      rfl
    rw [performWrites_cons]
    dsimp only
    refine ⟨?_, ?_⟩
    · rw [List.flatMap_cons, hheard, irest]
      simp only [hsubs]
    · rw [List.foldl_cons, hstate, istate]

/-- Every write of a command is kept as it is when the foregrounds are in their stored form. -/
theorem Planned.kept {rule : ForegroundRule} {store : TokenStore} {plan : Plan}
    (h : Planned rule store plan) (hdark : normalize rule.dark = rule.dark)
    (hlight : normalize rule.light = rule.light) : ∀ w ∈ plan.writes, w.Kept := by
  refine h.forall_writes (P := Write.Kept) ?_ ?_ ?_
  · intro m
    trivial
  · intro a ha
    exact ⟨ha.stored_eq, token_ne_mode _ ha.styled⟩
  · intro d hd f hf v hv
    have hplain := (foreground_of_mem d hd f hf).2.1
    refine ⟨?_, ?_⟩
    · rw [stored_of_color hplain]
      rcases hv with hv | hv
      · rw [hv, hdark]
      · rw [hv, hlight]
    · rintro rfl
      cases hplain

/-! ## Commands -/

/-- **The changes of a command are what is heard and what is done.** -/
theorem change_log_faithful (s : Session) (request : Request) (selection : Option Selection)
    (key : Option String) (r : Result)
    (hdark : normalize s.settings.foreground.dark = s.settings.foreground.dark)
    (hlight : normalize s.settings.foreground.light = s.settings.foreground.light)
    (h : (s.serve request selection key).outcome = .ok r) :
    (∀ u, s.store.subscribers.count u = 1 → u.failing = false →
      heardBy u (s.serve request selection key).heard = r.changes.map Change.event) ∧
    (s.serve request selection key).heard =
      r.changes.flatMap (fun c => s.store.deliveries c.event) ∧
    r.changes.foldl Change.apply (s.store.tokens, s.store.mode) =
      ((s.serve request selection key).session.store.tokens,
        (s.serve request selection key).session.store.mode) := by
  rw [Session.serve_eq] at h ⊢
  have hplan := planned_planRequest s.settings s.store request selection
  obtain ⟨hheard, hstate⟩ := performWrites_kept (hplan.kept hdark hlight) s.store
  obtain ⟨-, hc, hs, hh⟩ := carryOut_ok h
  rw [hh, hs, hc, hheard]
  refine ⟨?_, rfl, hstate⟩
  intro u hu hf
  generalize (performWrites s.store _).2.1 = changes
  induction changes with
  | nil => rfl
  | cons c rest ih =>
    rw [List.flatMap_cons, heardBy_append, heardBy_deliveries hu hf, ih]
    rfl

/-- A preset with one subscriber. -/
theorem preset_change_log :
    let u : Subscriber := { handle := 0, name := "panel" }
    let s : Session := { store := { subscribers := [u] } }
    ∃ r, (s.serve (.text "make it pop") none none).outcome = .ok r ∧ r.success = true ∧
      heardBy u (s.serve (.text "make it pop") none none).heard = r.changes.map Change.event := by
  intro u s
  obtain ⟨r, h, hr⟩ := exists_ok (b := true)
    (o := (s.serve (.text "make it pop") none none).outcome) (by decide +kernel)
  have hlog := change_log_faithful s (.text "make it pop") none none r (by decide +kernel)
    (by decide +kernel) h
  exact ⟨r, h, hr, hlog.1 u (by decide) rfl⟩

end Restyle.Interpreter
