import Restyle.Proofs.Interpreter.Interrupted

/-!
# Foregrounds follow their surfaces

Whenever a command gives a surface a colour, it gives the foreground of the surface the colour
that is readable on it, and nothing else ever touches a foreground.  So after any commands a
foreground either fits the surface as it is, or neither of the two was ever changed.

* `Follows` — a foreground that fits its surface.
* `follows_writesOf` — what assignments make of a surface and its foreground.
* `follows_serve`, `unchanged_serve` — what one command makes of them.
* `foregrounds_follow` — any number of commands.
-/

set_option autoImplicit false

namespace Restyle.Interpreter

open Restyle.Change Restyle.Color Restyle.Command Restyle.Store Restyle.Target Restyle.Vocabulary

/-! ## Surfaces and foregrounds -/

/-- A command that says it changed a token. -/
def Report.Changes (report : Report) (token : String) : Prop :=
  ∃ r, report.outcome = .ok r ∧ token ∈ r.changes.map (·.token)

/-- A foreground holds what is readable on its surface. -/
def Follows (rule : ForegroundRule) (store : TokenStore) (surface foreground : String) : Prop :=
  ∃ v, rule.foregroundFor? (store.get surface) = some v ∧ store.get foreground = normalize v

/-- Neither of two tokens is changed. -/
structure SameTokens (before after : TokenStore) (surface foreground : String) : Prop where
  surface : after.get surface = before.get surface
  foreground : after.get foreground = before.get foreground

variable {rule : ForegroundRule} {store start : TokenStore} {d : Definition} {f : String}

theorem Follows.of_same {after : TokenStore} (h : Follows rule store d.token f)
    (hs : SameTokens store after d.token f) : Follows rule after d.token f := by
  obtain ⟨v, hv, hf⟩ := h
  refine ⟨v, ?_, ?_⟩
  · rw [hs.surface]
    exact hv
  · rw [hs.foreground]
    exact hf

/-- The write of a foreground. -/
theorem get_foregroundWrites_self {surface v : String} (hf : plainTokens.contains f = false)
    (hv : rule.foregroundFor? surface = some v) :
    (performWrites store (foregroundWrites rule (some f) surface)).1.get f = normalize v := by
  have hw : foregroundWrites rule (some f) surface = [.token f v] := by
    unfold foregroundWrites
    rw [hv]
  rw [hw, performWrites_cons]
  exact (get_perform store f v f).trans ((if_pos rfl).trans (stored_of_color hf v))

/-- A surface is assigned a colour on which something is readable. -/
theorem Assignment.Allowed.exists_foreground {a : Assignment} (ha : a.Allowed start)
    (hfore : a.definition.foreground = some f) (rule : ForegroundRule) :
    ∃ v, rule.foregroundFor? a.value = some v := by
  have hs := scale?_of_foreground a.definition ha.styled (by rw [hfore]; rfl)
  have hstored : IsStored a.value := by
    rcases ha.value with hv | hv
    · exact (suits_of_color hs).1 hv
    · exact hv.1
  obtain ⟨c, hc⟩ := Option.isSome_iff_exists.1 hstored.read
  exact ⟨_, by rw [ForegroundRule.foregroundFor?, hc]; rfl⟩

/-- The surface of an assignment has the value of the assignment, and other surfaces have what
they had. -/
theorem get_surfaceWrites (rule : ForegroundRule) (store : TokenStore) (hd : d ∈ styled)
    {a : Assignment} (ha : a.Allowed start) :
    (performWrites store
        (surfaceWrites rule a.definition.token a.definition.foreground a.value)).1.get d.token =
      if d.token = a.definition.token then a.value else store.get d.token := by
  have hnot : d.token ∉ a.definition.foreground := fun h =>
    token_ne_foreground ha.styled h hd rfl
  change (performWrites ((Write.token a.definition.token a.value).perform store).1
    (foregroundWrites rule a.definition.foreground a.value)).1.get d.token = _
  rw [get_foregroundWrites hnot, get_perform, ha.stored_eq]

/-- What one assignment makes of a surface and its foreground. -/
theorem follows_surfaceWrites (rule : ForegroundRule) (store : TokenStore) (hd : d ∈ styled)
    (hf : f ∈ d.foreground) {a : Assignment} (ha : a.Allowed start) :
    let after := (performWrites store
      (surfaceWrites rule a.definition.token a.definition.foreground a.value)).1
    if a.definition.token = d.token then Follows rule after d.token f
    else SameTokens store after d.token f := by
  intro after
  have hafter : after = (performWrites
      ((Write.token a.definition.token a.value).perform store).1
      (foregroundWrites rule a.definition.foreground a.value)).1 := rfl
  have hsurface := get_surfaceWrites rule store hd ha
  split
  · rename_i ht
    have hfore : a.definition.foreground = some f :=
      (foreground_mem_iff d hd f hf a.definition ha.styled).2 ht
    obtain ⟨v, hv⟩ := ha.exists_foreground hfore rule
    rw [if_pos ht.symm] at hsurface
    refine ⟨v, by rw [hsurface]; exact hv, ?_⟩
    rw [hafter, hfore]
    exact get_foregroundWrites_self (foreground_of_mem d hd f hf).2.1 hv
  · rename_i ht
    rw [if_neg (Ne.symm ht)] at hsurface
    refine ⟨hsurface, ?_⟩
    have hnot : f ∉ a.definition.foreground := fun h =>
      ht ((foreground_mem_iff d hd f hf a.definition ha.styled).1 h)
    rw [hafter, get_foregroundWrites hnot, get_perform,
      if_neg (Ne.symm (token_ne_foreground hd hf ha.styled))]

/-- What assignments make of a surface and its foreground: they fit once the surface is assigned
to, and stay as they are until then. -/
theorem follows_writesOf (rule : ForegroundRule) (store : TokenStore) (hd : d ∈ styled)
    (hf : f ∈ d.foreground) {l : List Assignment} (hl : ∀ a ∈ l, a.Allowed start) :
    let after := (performWrites store (writesOf rule l)).1
    ((Follows rule store d.token f ∨ ∃ a ∈ l, a.definition.token = d.token) →
      Follows rule after d.token f) ∧
    ((∀ a ∈ l, a.definition.token ≠ d.token) → SameTokens store after d.token f) := by
  induction l generalizing store with
  | nil =>
    refine ⟨?_, fun _ => ⟨rfl, rfl⟩⟩
    rintro (h | ⟨a, ha, -⟩)
    · exact h
    · cases ha
  | cons a rest ih =>
    have hfirst := follows_surfaceWrites rule store hd hf (hl a List.mem_cons_self)
    obtain ⟨hfollow, hsame⟩ := ih (performWrites store
      (surfaceWrites rule a.definition.token a.definition.foreground a.value)).1
      (fun b hb => hl b (List.mem_cons_of_mem _ hb))
    rw [writesOf_cons, performWrites_append]
    dsimp only at hfirst hfollow hsame ⊢
    by_cases ht : a.definition.token = d.token
    · rw [if_pos ht] at hfirst
      exact ⟨fun _ => hfollow (.inl hfirst), fun h => absurd ht (h a List.mem_cons_self)⟩
    · rw [if_neg ht] at hfirst
      refine ⟨?_, ?_⟩
      · rintro (h | ⟨b, hb, hbt⟩)
        · exact hfollow (.inl (h.of_same hfirst))
        · rcases List.mem_cons.1 hb with rfl | hb
          · exact absurd hbt ht
          · exact hfollow (.inr ⟨b, hb, hbt⟩)
      · intro h
        have hrest := hsame fun b hb => h b (List.mem_cons_of_mem _ hb)
        exact ⟨hrest.surface.trans hfirst.surface, hrest.foreground.trans hfirst.foreground⟩

/-- The assignments among writes are told by the names that the writes are reported under. -/
theorem mem_targets_writesOf (hd : d ∈ styled) {l : List Assignment}
    (hl : ∀ a ∈ l, a.Allowed start) :
    d.token ∈ (writesOf rule l).map Write.target ↔ ∃ a ∈ l, a.definition.token = d.token := by
  constructor
  · intro h
    obtain ⟨w, hw, ht⟩ := List.mem_map.1 h
    obtain ⟨a, ha, rfl | ⟨g, hg, v, rfl, -⟩⟩ := mem_writesOf hw
    · exact ⟨a, ha, ht⟩
    · exact absurd (Eq.symm ht) (token_ne_foreground (hl a ha).styled hg hd)
  · rintro ⟨a, ha, ht⟩
    refine List.mem_map.2 ⟨.token a.definition.token a.value, ?_, ht⟩
    exact List.mem_flatMap.2 ⟨a, ha, List.mem_cons_self⟩

/-! ## One command -/

variable {s : Session} {request : Request} {selection : Option Selection} {key : Option String}

/-- A plan without a fault, by the names that its writes are reported under. -/
theorem Planned.follows {plan : Plan} (h : Planned rule store plan) (hd : d ∈ styled)
    (hf : f ∈ d.foreground) {reply : Reply} (hr : plan.reply = .ok reply) :
    let after := (performWrites store plan.writes).1
    if d.token ∈ plan.writes.map Write.target then Follows rule after d.token f
    else SameTokens store after d.token f := by
  cases h with
  | reply reply =>
    rw [if_neg (by simp)]
    exact ⟨rfl, rfl⟩
  | mode mode reply succeeds =>
    have hne : d.token ∉ [Write.mode mode].map Write.target := by
      intro hm
      exact token_ne_mode d hd (List.mem_singleton.1 hm)
    dsimp only
    rw [if_neg hne]
    exact ⟨rfl, rfl⟩
  | assign l allowed reply succeeds =>
    obtain ⟨hfollow, hsame⟩ := follows_writesOf rule store hd hf allowed
    dsimp only
    split
    · rename_i hm
      exact hfollow (.inr ((mem_targets_writesOf hd allowed).1 hm))
    · rename_i hm
      apply hsame
      intro a ha ht
      exact hm ((mem_targets_writesOf hd allowed).2 ⟨a, ha, ht⟩)
  | stopped l allowed fault => cases hr

/-- A command that says it changed a surface. -/
theorem follows_serve (hd : d ∈ styled) (hf : f ∈ d.foreground)
    (h : (s.serve request selection key).Changes d.token) :
    Follows s.settings.foreground (s.serve request selection key).session.store d.token f := by
  obtain ⟨r, hr, hm⟩ := h
  rw [Session.serve_eq] at hr ⊢
  obtain ⟨hreply, hc, hs, -⟩ := carryOut_ok hr
  have hplan := (planned_planRequest s.settings s.store request selection).follows hd hf hreply
  rw [hc, changes_performWrites] at hm
  rw [hs]
  dsimp only at hplan
  rwa [if_pos hm] at hplan

/-- A command that does not say so, be it that a fault stopped it. -/
theorem unchanged_serve (hd : d ∈ styled) (hf : f ∈ d.foreground)
    (h : ¬(s.serve request selection key).Changes d.token) :
    SameTokens s.store (s.serve request selection key).session.store d.token f := by
  cases ho : (s.serve request selection key).outcome with
  | ok r =>
    have hm : d.token ∉ r.changes.map (·.token) := fun hm => h ⟨r, ho, hm⟩
    rw [Session.serve_eq] at ho ⊢
    obtain ⟨hreply, hc, hs, -⟩ := carryOut_ok ho
    have hplan := (planned_planRequest s.settings s.store request selection).follows hd hf hreply
    rw [hc, changes_performWrites] at hm
    rw [hs]
    dsimp only at hplan
    rwa [if_neg hm] at hplan
  | error fault =>
    -- a fault leaves nothing behind but corners, which have no foreground and are none
    have hfault := serve_fault ho
    split at hfault
    · rw [hfault.1]
      exact ⟨rfl, rfl⟩
    · rename_i value hv
      have hsurface : d.token ≠ radius.token := by
        intro ht
        have hs := scale?_of_foreground d hd (by rw [hf]; rfl)
        rw [ht] at hs
        cases hs
      have hfore := token_ne_foreground hd hf radius_mem_styled
      rw [hfault.1]
      refine ⟨?_, ?_⟩
      · exact (get_perform s.store radius.token value d.token).trans (if_neg hsurface)
      · exact (get_perform s.store radius.token value f).trans (if_neg (Ne.symm hfore))

/-! ## Any number of commands -/

/-- A foreground that fits keeps fitting. -/
theorem Follows.serveAll (hd : d ∈ styled) (hf : f ∈ d.foreground)
    (h : Follows s.settings.foreground s.store d.token f) (calls : List Call) :
    Follows s.settings.foreground (s.serveAll calls).store d.token f := by
  induction calls generalizing s with
  | nil => exact h
  | cons call rest ih =>
    have hset := s.settings_serve call.request call.selection call.key
    rw [Session.serveAll_cons, ← hset]
    apply ih
    rw [hset]
    by_cases hc : (s.serve call.request call.selection call.key).Changes d.token
    · exact follows_serve hd hf hc
    · exact h.of_same (unchanged_serve hd hf hc)

theorem follows_run (hd : d ∈ styled) (hf : f ∈ d.foreground) {calls : List Call}
    (h : ∃ report ∈ s.reports calls, report.Changes d.token) :
    Follows s.settings.foreground (s.serveAll calls).store d.token f := by
  induction calls generalizing s with
  | nil =>
    obtain ⟨report, hr, -⟩ := h
    cases hr
  | cons call rest ih =>
    have hset := s.settings_serve call.request call.selection call.key
    obtain ⟨report, hr, hc⟩ := h
    rw [Session.serveAll_cons, ← hset]
    rcases List.mem_cons.1 hr with rfl | hr
    · apply Follows.serveAll hd hf
      rw [hset]
      exact follows_serve hd hf hc
    · exact ih ⟨report, hr, hc⟩

theorem unchanged_run (hd : d ∈ styled) (hf : f ∈ d.foreground) {calls : List Call}
    (h : ∀ report ∈ s.reports calls, ¬report.Changes d.token) :
    (s.serveAll calls).store.get f = s.store.get f := by
  induction calls generalizing s with
  | nil => rfl
  | cons call rest ih =>
    obtain ⟨hfirst, hrest⟩ := List.forall_mem_cons.1 h
    rw [Session.serveAll_cons]
    exact (ih hrest).trans (unchanged_serve hd hf hfirst).foreground

/-- **Foregrounds follow their surfaces**, whatever the session begins with. -/
theorem foregrounds_follow (s : Session) (calls : List Call) (d : Definition)
    (hd : d ∈ definitions.map (·.2)) (f : String) (hf : f ∈ d.foreground) :
    ((∃ report ∈ s.reports calls, ∃ r, report.outcome = .ok r ∧
        ∃ c ∈ r.changes, c.token = d.token) →
      ∃ v, s.settings.foreground.foregroundFor? ((s.serveAll calls).store.get d.token) = some v ∧
        (s.serveAll calls).store.get f = normalize v) ∧
    ((∀ report ∈ s.reports calls, ∀ r, report.outcome = .ok r →
        ∀ c ∈ r.changes, c.token ≠ d.token) →
      (s.serveAll calls).store.get f = s.store.get f) := by
  have hs := mem_styled_of_foreground d hd (by rw [hf]; rfl)
  constructor
  · rintro ⟨report, hr, r, ho, c, hc, ht⟩
    exact follows_run hs hf ⟨report, hr, r, ho, List.mem_map.2 ⟨c, hc, ht⟩⟩
  · intro h
    apply unchanged_run hs hf
    rintro report hr ⟨r, ho, hm⟩
    obtain ⟨c, hc, ht⟩ := List.mem_map.1 hm
    exact h report hr r ho c hc ht

/-- A brand colour that is named and then stepped. -/
theorem brand_foreground_follows :
    let calls : List Call := [⟨.text "make the primary color yellow", none, some "app"⟩,
      ⟨.text "less saturation", none, none⟩]
    (({} : Session).serveAll calls).store.get primary.token ≠
        ({} : Session).store.get primary.token ∧
      ∃ v, ({} : ForegroundRule).foregroundFor?
          ((({} : Session).serveAll calls).store.get primary.token) = some v ∧
        (({} : Session).serveAll calls).store.get "primary-foreground" = normalize v := by
  intro calls
  have hchanged : (({} : Session).serve (.text "make the primary color yellow") none
      (some "app")).outcome.toOption.map (·.changes.map (·.token)) =
        some ["primary", "primary-foreground"] := by decide +kernel
  have hok : ∃ r, (({} : Session).serve (.text "make the primary color yellow") none
      (some "app")).outcome = .ok r ∧ ∃ c ∈ r.changes, c.token = primary.token := by
    generalize (({} : Session).serve (.text "make the primary color yellow") none
      (some "app")).outcome = outcome at hchanged
    cases outcome with
    | error fault => cases hchanged
    | ok r =>
      have htokens : r.changes.map (·.token) = ["primary", "primary-foreground"] :=
        Option.some.inj hchanged
      refine ⟨r, rfl, List.mem_map.1 ?_⟩
      rw [htokens]
      exact List.mem_cons_self
  have h := foregrounds_follow {} calls primary primary_mem "primary-foreground" rfl
  exact ⟨by decide +kernel, h.1 ⟨_, List.mem_cons_self, hok⟩⟩

end Restyle.Interpreter
