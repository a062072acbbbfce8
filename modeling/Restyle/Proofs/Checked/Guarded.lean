/-!
# Failures that are caught

In the library's operations it is data whether somebody who is called fails.  Here a failure is
raised: it stops the computation where it happens, unless it is caught there, and what was done
before it stays done.

* `Attempt` — a computation over a state that may fail.
* `outcome` — how it ends, and the state that it has come to.
* `guarded` — an attempt whose failure is left aside.
* `outcome_forM` — attempts that cannot fail, one after another.
* `Logged`, `tellAll` — telling others, each of whom may fail.
-/

set_option autoImplicit false

namespace Restyle.Checked

variable {ε τ α β σ κ : Type}

/-- A computation that may fail; the state is kept when it does. -/
abbrev Attempt (ε τ α : Type) := ExceptT ε (StateM τ) α

/-- How an attempt ends, and the state then. -/
def outcome (attempt : Attempt ε τ α) (state : τ) : Except ε α × τ := attempt.run.run state

/-- An attempt whose failure is left aside. -/
def guarded (attempt : Attempt ε τ Unit) : Attempt ε τ Unit := tryCatch attempt fun _ => pure ()

/-! ## Steps of an attempt -/

theorem outcome_get_bind (next : τ → Attempt ε τ α) (state : τ) :
    outcome (get >>= next) state = outcome (next state) state := rfl

theorem outcome_set_bind (new : τ) (next : PUnit → Attempt ε τ α) (state : τ) :
    outcome (set new >>= next) state = outcome (next ⟨⟩) new := rfl

theorem outcome_bind (attempt : Attempt ε τ α) (next : α → Attempt ε τ β) (state : τ) :
    outcome (attempt >>= next) state =
      match outcome attempt state with
      | (.ok value, new) => outcome (next value) new
      | (.error e, new) => (.error e, new) := by
  unfold outcome
  simp only [ExceptT.run, StateT.run, bind, ExceptT.bind, ExceptT.mk, StateT.bind]
  rcases attempt state with ⟨_ | _, new⟩ <;> rfl

theorem outcome_bind_ok {attempt : Attempt ε τ α} {state new : τ} {value : α}
    (h : outcome attempt state = (.ok value, new)) (next : α → Attempt ε τ β) :
    outcome (attempt >>= next) state = outcome (next value) new := by
  rw [outcome_bind, h]

theorem outcome_tryCatch (attempt : Attempt ε τ α) (handler : ε → Attempt ε τ α) (state : τ) :
    outcome (tryCatch attempt handler) state =
      match outcome attempt state with
      | (.ok value, new) => (.ok value, new)
      | (.error e, new) => outcome (handler e) new := by
  unfold outcome
  simp only [ExceptT.run, StateT.run, tryCatch, tryCatchThe, MonadExceptOf.tryCatch,
    ExceptT.tryCatch, ExceptT.mk, bind, StateT.bind]
  rcases attempt state with ⟨_ | _, new⟩ <;> rfl

theorem outcome_guarded (attempt : Attempt ε τ Unit) (state : τ) :
    outcome (guarded attempt) state = (.ok (), (outcome attempt state).2) := by
  rw [guarded, outcome_tryCatch]
  split
  · rename_i h
    rw [h]
  · rename_i h
    rw [h]
    rfl

/-- Attempts that cannot fail do not fail one after another. -/
theorem outcome_forM {attempt : α → Attempt ε τ Unit} {after : τ → α → τ}
    (h : ∀ state x, outcome (attempt x) state = (.ok (), after state x)) (items : List α)
    (state : τ) : outcome (items.forM attempt) state = (.ok (), items.foldl after state) := by
  induction items generalizing state with
  | nil => rfl
  | cons x rest ih =>
    rw [List.forM, outcome_bind_ok (h state x), ih, List.foldl_cons]

/-! ## Telling others -/

/-- A state, and what others were told so far. -/
structure Logged (σ κ : Type) where
  state : σ
  log : List κ := []

/-- The same state, after more was told. -/
def Logged.noting (m : Logged σ κ) (entries : List κ) : Logged σ κ :=
  { m with log := m.log ++ entries }

/-- Tells something to somebody, who may fail then; this may depend on all that was told before. -/
def tell (conduct : List κ → κ → Option ε) (entry : κ) : Attempt ε (Logged σ κ) Unit := do
  let m : Logged σ κ ← get
  set (m.noting [entry])
  match conduct m.log entry with
  | some e => throw e
  | none => pure ()

/-- Tells several things; failures are left aside. -/
def tellAll (conduct : List κ → κ → Option ε) (entries : List κ) : Attempt ε (Logged σ κ) Unit :=
  entries.forM fun entry => guarded (tell conduct entry)

variable {conduct : List κ → κ → Option ε}

theorem outcome_tell (entry : κ) (m : Logged σ κ) :
    (outcome (tell conduct entry) m).2 = m.noting [entry] := by
  unfold tell
  rw [outcome_get_bind, outcome_set_bind]
  split <;> rfl

theorem foldl_noting (entries : List κ) (m : Logged σ κ) :
    entries.foldl (fun m entry => m.noting [entry]) m = m.noting entries := by
  induction entries generalizing m with
  | nil => simp [Logged.noting]
  | cons entry rest ih =>
    rw [List.foldl_cons, ih]
    simp [Logged.noting]

/-- **Telling others does not fail**, and tells all of it. -/
theorem outcome_tellAll (entries : List κ) (m : Logged σ κ) :
    outcome (tellAll conduct entries) m = (.ok (), m.noting entries) := by
  have htold : ∀ (m : Logged σ κ) (entry : κ),
      outcome (guarded (tell conduct entry)) m = (.ok (), m.noting [entry]) := by
    intro m entry
    rw [outcome_guarded, outcome_tell]
  rw [tellAll, outcome_forM htold, foldl_noting]

end Restyle.Checked
