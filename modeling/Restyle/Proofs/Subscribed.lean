import Mathlib.Data.List.Nodup
import Mathlib.Data.List.TakeWhile

/-!
# Subscribers that come and go

The token store and the scheduler both have subscribers.  A subscription is added under a handle
that no other one has, stands until its handle is used for the first time, and is told, while it
stands, what every call has to say.  This module says what one subscription hears over a run of
calls, whoever else comes and goes meanwhile.

* `Registry`, `Registry.register` — the subscriptions that stand, and what a call does to them.
* `Announcer` — something whose calls are told to the subscriptions that stand.
* `Announcer.heard_subscribed` — a subscription hears what is said while it stands.
-/

set_option autoImplicit false

namespace Restyle

variable {τ κ ν α β : Type}

/-! ## Subscriptions that stand -/

/-- What a call does to the subscriptions. -/
inductive Registration (ν : Type) where
  | keep
  | add (who : ν)
  | cancel (handle : Nat)

/-- Whether a call cancels the subscription of a handle. -/
def Registration.cancels (handle : Nat) : Registration ν → Bool
  | .cancel h => h == handle
  | _ => false

/-- The subscriptions that stand, and the handle of the next one. -/
structure Registry (α : Type) where
  standing : List α
  next : Nat

namespace Registry

variable {handle : α → Nat} {make : ν → Nat → α} {r : Registry α} {c : α}

/-- The subscriptions after a call. -/
def register (handle : α → Nat) (make : ν → Nat → α) (r : Registry α) :
    Registration ν → Registry α
  | .keep => r
  | .add who => ⟨r.standing ++ [make who r.next], r.next + 1⟩
  | .cancel h => ⟨r.standing.filter fun c => handle c != h, r.next⟩

/-- No two subscriptions have the same handle, and none has a later one. -/
structure Sound (handle : α → Nat) (r : Registry α) : Prop where
  below : ∀ c ∈ r.standing, handle c < r.next
  distinct : (r.standing.map handle).Nodup

theorem sound_of_empty (h : r.standing = []) : r.Sound handle where
  below := by simp [h]
  distinct := by simp [h]

theorem Sound.nodup (h : r.Sound handle) : r.standing.Nodup := List.Nodup.of_map handle h.distinct

theorem Sound.count [DecidableEq α] (h : r.Sound handle) (hc : c ∈ r.standing) :
    r.standing.count c = 1 := List.count_eq_one_of_mem h.nodup hc

theorem Sound.register (h : r.Sound handle) (hmake : ∀ who n, handle (make who n) = n)
    (g : Registration ν) : (r.register handle make g).Sound handle := by
  cases g with
  | keep => exact h
  | add who =>
    have hnew : r.next ∉ r.standing.map handle := by
      intro hmem
      obtain ⟨c, hc, hnext⟩ := List.mem_map.1 hmem
      exact absurd (h.below c hc) (by omega)
    constructor
    · intro c hc
      rcases List.mem_append.1 hc with hc | hc
      · exact Nat.lt_succ_of_lt (h.below c hc)
      · rw [List.mem_singleton.1 hc, hmake]
        exact Nat.lt_succ_self r.next
    · simp only [Registry.register, List.map_append, List.map_singleton, hmake]
      exact List.nodup_append.2 ⟨h.distinct, List.nodup_singleton _, by
        rintro a ha b hb rfl
        exact hnew (List.mem_singleton.1 hb ▸ ha)⟩
  | cancel n =>
    constructor
    · exact fun c hc => h.below c (List.mem_of_mem_filter hc)
    · exact h.distinct.sublist (List.filter_sublist.map handle)

theorem next_le_register (g : Registration ν) : r.next ≤ (r.register handle make g).next := by
  cases g with
  | keep => exact Nat.le_refl _
  | add who => exact Nat.le_succ _
  | cancel n => exact Nat.le_refl _

theorem mem_register (hc : c ∈ r.standing) {g : Registration ν}
    (hg : g.cancels (handle c) = false) : c ∈ (r.register handle make g).standing := by
  cases g with
  | keep => exact hc
  | add who => exact List.mem_append_left _ hc
  | cancel n =>
    have hn : handle c ≠ n := Ne.symm (by simpa [Registration.cancels] using hg)
    exact List.mem_filter.2 ⟨hc, by simpa using hn⟩

theorem not_mem_register (hmake : ∀ who n, handle (make who n) = n) (hc : c ∉ r.standing)
    (hlt : handle c < r.next) (g : Registration ν) : c ∉ (r.register handle make g).standing := by
  cases g with
  | keep => exact hc
  | add who =>
    intro hmem
    rcases List.mem_append.1 hmem with hmem | hmem
    · exact hc hmem
    · rw [List.mem_singleton.1 hmem, hmake] at hlt
      exact Nat.lt_irrefl _ hlt
  | cancel n => exact fun hmem => hc (List.mem_of_mem_filter hmem)

theorem not_mem_cancelled {g : Registration ν} (hg : g.cancels (handle c) = true) :
    c ∉ (r.register handle make g).standing := by
  cases g with
  | keep => cases hg
  | add who => cases hg
  | cancel n =>
    intro hmem
    have hn : n = handle c := by simpa [Registration.cancels] using hg
    simpa [hn] using (List.mem_filter.1 hmem).2

end Registry

/-! ## What is heard -/

/-- Something whose calls are told to the subscriptions that stand. -/
structure Announcer (τ κ ν α β : Type) where
  handle : α → Nat
  make : ν → Nat → α
  registry : τ → Registry α
  registration : κ → Registration ν
  /-- The state after a call. -/
  step : τ → κ → τ
  /-- What a call has to say. -/
  said : τ → κ → List β
  /-- What a subscription has heard so far. -/
  heard : α → τ → List β
  handle_make : ∀ who n, handle (make who n) = n
  registry_step : ∀ t k, registry (step t k) = (registry t).register handle make (registration k)
  said_cancel : ∀ t k h, registration k = .cancel h → said t k = []
  heard_standing : ∀ t k c, (registry t).Sound handle → c ∈ (registry t).standing →
    heard c (step t k) = heard c t ++ said t k
  heard_absent : ∀ t k c, c ∉ (registry t).standing → heard c (step t k) = heard c t

namespace Announcer

variable {A : Announcer τ κ ν α β} {t : τ} {c : α}

/-- The state after calls. -/
def run (A : Announcer τ κ ν α β) (t : τ) (calls : List κ) : τ := calls.foldl A.step t

/-- What calls have to say, one after another. -/
def saidDuring (A : Announcer τ κ ν α β) (t : τ) : List κ → List β
  | [] => []
  | k :: rest => A.said t k ++ A.saidDuring (A.step t k) rest

/-- The handles of a state are in order. -/
def Sound (A : Announcer τ κ ν α β) (t : τ) : Prop := (A.registry t).Sound A.handle

theorem Sound.step (h : A.Sound t) (k : κ) : A.Sound (A.step t k) := by
  unfold Announcer.Sound
  rw [A.registry_step]
  exact Registry.Sound.register h A.handle_make _

theorem Sound.run (h : A.Sound t) (calls : List κ) : A.Sound (A.run t calls) := by
  induction calls generalizing t with
  | nil => exact h
  | cons k rest ih => exact ih (h.step k)

theorem next_le_run (calls : List κ) : (A.registry t).next ≤ (A.registry (A.run t calls)).next := by
  induction calls generalizing t with
  | nil => exact Nat.le_refl _
  | cons k rest ih =>
    have hstep : (A.registry t).next ≤ (A.registry (A.step t k)).next := by
      rw [A.registry_step]
      exact Registry.next_le_register _
    exact Nat.le_trans hstep ih

/-- Nothing is heard before the handle is given out. -/
theorem heard_unknown (h : A.Sound t) {calls : List κ}
    (hc : (A.registry (A.run t calls)).next ≤ A.handle c) :
    A.heard c (A.run t calls) = A.heard c t := by
  induction calls generalizing t with
  | nil => rfl
  | cons k rest ih =>
    have habsent : c ∉ (A.registry t).standing := by
      intro hmem
      have hlt := h.below c hmem
      have hle := A.next_le_run (t := t) (k :: rest)
      omega
    exact (ih (h.step k) hc).trans (A.heard_absent t k c habsent)

/-- While it stands, a subscription hears what is said. -/
theorem heard_lasting (h : A.Sound t) (hc : c ∈ (A.registry t).standing) {calls : List κ}
    (hcalls : ∀ k ∈ calls, (A.registration k).cancels (A.handle c) = false) :
    A.heard c (A.run t calls) = A.heard c t ++ A.saidDuring t calls ∧
      c ∈ (A.registry (A.run t calls)).standing := by
  induction calls generalizing t with
  | nil => exact ⟨(List.append_nil _).symm, hc⟩
  | cons k rest ih =>
    obtain ⟨hk, hrest⟩ := List.forall_mem_cons.1 hcalls
    have hstands : c ∈ (A.registry (A.step t k)).standing := by
      rw [A.registry_step]
      exact Registry.mem_register hc hk
    obtain ⟨hheard, hlast⟩ := ih (h.step k) hstands hrest
    refine ⟨?_, hlast⟩
    rw [saidDuring, ← List.append_assoc, ← A.heard_standing t k c h hc]
    exact hheard

/-- Once it is cancelled, a subscription hears nothing more. -/
theorem heard_gone (hc : c ∉ (A.registry t).standing) (hlt : A.handle c < (A.registry t).next)
    (calls : List κ) : A.heard c (A.run t calls) = A.heard c t := by
  induction calls generalizing t with
  | nil => rfl
  | cons k rest ih =>
    have hgone : c ∉ (A.registry (A.step t k)).standing := by
      rw [A.registry_step]
      exact Registry.not_mem_register A.handle_make hc hlt _
    have hold : A.handle c < (A.registry (A.step t k)).next := by
      rw [A.registry_step]
      exact Nat.lt_of_lt_of_le hlt (Registry.next_le_register _)
    exact (ih hgone hold).trans (A.heard_absent t k c hc)

/-- From the call that cancels it on, a subscription hears nothing. -/
theorem heard_cancelled (h : A.Sound t) (hc : c ∈ (A.registry t).standing) {k : κ}
    (hk : (A.registration k).cancels (A.handle c) = true) (rest : List κ) :
    A.heard c (A.run t (k :: rest)) = A.heard c t := by
  have hsilent : A.said t k = [] := by
    cases hg : A.registration k with
    | keep =>
      rw [hg] at hk
      cases hk
    | add who =>
      rw [hg] at hk
      cases hk
    | cancel n => exact A.said_cancel t k n hg
  have hgone : c ∉ (A.registry (A.step t k)).standing := by
    rw [A.registry_step]
    exact Registry.not_mem_cancelled hk
  have hold : A.handle c < (A.registry (A.step t k)).next := by
    rw [A.registry_step]
    exact Nat.lt_of_lt_of_le (h.below c hc) (Registry.next_le_register _)
  have hstep : A.heard c (A.step t k) = A.heard c t := by
    rw [A.heard_standing t k c h hc, hsilent, List.append_nil]
  exact (heard_gone hgone hold rest).trans hstep

/-- The calls from a subscription up to the first one that cancels its handle. -/
def lasting (A : Announcer τ κ ν α β) (handle : Nat) (calls : List κ) : List κ :=
  calls.takeWhile fun k => !(A.registration k).cancels handle

theorem run_lasting (handle : Nat) (later : List κ) :
    A.run t later = A.run (A.run t (A.lasting handle later))
      (later.dropWhile fun k => !(A.registration k).cancels handle) := by
  rw [run, run, run, lasting, ← List.foldl_append, List.takeWhile_append_dropWhile]

/-- A subscription that stands hears what is said up to the first call that cancels it. -/
theorem heard_until_cancelled (h : A.Sound t) (hc : c ∈ (A.registry t).standing)
    (later : List κ) :
    A.heard c (A.run t later) = A.heard c t ++ A.saidDuring t (A.lasting (A.handle c) later) := by
  have hcalls : ∀ k ∈ A.lasting (A.handle c) later,
      (A.registration k).cancels (A.handle c) = false := by
    intro k hmem
    simpa using List.mem_takeWhile_imp hmem
  obtain ⟨hheard, hstill⟩ := heard_lasting h hc hcalls
  rw [run_lasting (A.handle c), ← hheard]
  cases hrest : later.dropWhile fun k => !(A.registration k).cancels (A.handle c) with
  | nil => rfl
  | cons k rest =>
    have hne : later.dropWhile (fun k => !(A.registration k).cancels (A.handle c)) ≠ [] := by
      simp [hrest]
    have hcancel := List.head_dropWhile_not (fun k => !(A.registration k).cancels (A.handle c)) hne
    simp only [hrest, List.head_cons, Bool.not_eq_false'] at hcancel
    exact heard_cancelled (h.run _) hstill hcancel rest

/-- **A subscription hears what is said while it stands**: from the call that adds it up to the
first one that cancels it, each thing once and in order, and nothing before or after. -/
theorem heard_subscribed (h : A.Sound t) (hstart : ∀ c, A.heard c t = []) (before : List κ)
    (k : κ) (who : ν) (hk : A.registration k = .add who) (later : List κ) :
    let handle := (A.registry (A.run t before)).next
    A.heard (A.make who handle) (A.run t (before ++ k :: later)) =
      A.saidDuring (A.step (A.run t before) k) (A.lasting handle later) := by
  intro handle
  generalize hc : A.make who handle = c
  have hhandle : A.handle c = handle := by rw [← hc, A.handle_make]
  have hsound : A.Sound (A.run t before) := h.run before
  -- before it is added
  have hsilent : A.heard c (A.run t before) = [] := by
    rw [heard_unknown h (Nat.le_of_eq hhandle.symm), hstart]
  have habsent : c ∉ (A.registry (A.run t before)).standing := by
    intro hmem
    exact absurd (hsound.below c hmem) (by omega)
  have hadded : A.heard c (A.step (A.run t before) k) = [] := by
    rw [A.heard_absent _ k c habsent, hsilent]
  -- from then on
  have hstands : c ∈ (A.registry (A.step (A.run t before) k)).standing := by
    rw [A.registry_step, hk, ← hc]
    exact List.mem_append_right _ (List.mem_singleton_self _)
  have hrun : A.run t (before ++ k :: later) = A.run (A.step (A.run t before) k) later := by
    rw [run, run, run, List.foldl_append, List.foldl_cons]
  rw [hrun, heard_until_cancelled (hsound.step k) hstands, hadded, List.nil_append, hhandle]

end Announcer

end Restyle
