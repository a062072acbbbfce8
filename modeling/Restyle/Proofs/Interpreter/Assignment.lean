import Restyle.Proofs.Interpreter.Values

/-!
# What a plan can be

A plan only replies, or switches the mode, or gives values to tokens that definitions are bound
to, each with the foreground that is shown on it, and keeps these values at the places of the
definitions.

* `Planned` — everything that a plan can be.
* `planned_planText`, `planned_planIntent` — every plan is one of these.
-/

set_option autoImplicit false

namespace Restyle.Interpreter

open Restyle.Change Restyle.Color Restyle.Command Restyle.Store Restyle.Sync Restyle.Target
  Restyle.Vocabulary

/-! ## Assignments -/

/-- A value for the token of a definition. -/
structure Assignment where
  definition : Definition
  value : String

/-- The writes of assignments, with those of the foregrounds. -/
def writesOf (rule : ForegroundRule) (l : List Assignment) : List Write :=
  l.flatMap fun a => surfaceWrites rule a.definition.token a.definition.foreground a.value

/-- The values of assignments at their places, on top of a theme. -/
def patchOf (theme : Theme) (l : List Assignment) : Theme :=
  l.foldl (fun theme a => addToPatch theme a.definition.path a.value) theme

@[simp] theorem writesOf_nil (rule : ForegroundRule) : writesOf rule [] = [] := rfl

@[simp] theorem patchOf_nil (theme : Theme) : patchOf theme [] = theme := rfl

theorem writesOf_singleton (rule : ForegroundRule) (a : Assignment) :
    writesOf rule [a] = surfaceWrites rule a.definition.token a.definition.foreground a.value := by
  simp [writesOf]

theorem patchOf_singleton (theme : Theme) (a : Assignment) :
    patchOf theme [a] = addToPatch theme a.definition.path a.value := rfl

theorem writesOf_cons (rule : ForegroundRule) (a : Assignment) (l : List Assignment) :
    writesOf rule (a :: l) =
      surfaceWrites rule a.definition.token a.definition.foreground a.value ++ writesOf rule l := by
  rw [writesOf, List.flatMap_cons]
  rfl

theorem writesOf_append (rule : ForegroundRule) (l m : List Assignment) :
    writesOf rule (l ++ m) = writesOf rule l ++ writesOf rule m := by
  rw [writesOf, List.flatMap_append]
  rfl

theorem patchOf_append (theme : Theme) (l m : List Assignment) :
    patchOf theme (l ++ m) = patchOf (patchOf theme l) m := by
  rw [patchOf, List.foldl_append]
  rfl

/-- The foreground of a surface is written if the surface has one and is a colour. -/
theorem foregroundWrites_cases (rule : ForegroundRule) (foreground : Option String)
    (surface : String) : foregroundWrites rule foreground surface = [] ∨
      ∃ f ∈ foreground, ∃ v, rule.foregroundFor? surface = some v ∧
        foregroundWrites rule foreground surface = [.token f v] := by
  unfold foregroundWrites
  split
  · rename_i f v hv
    exact .inr ⟨f, rfl, v, hv, rfl⟩
  · exact .inl rfl

theorem mem_foregroundWrites {rule : ForegroundRule} {foreground : Option String}
    {surface : String} {w : Write} (h : w ∈ foregroundWrites rule foreground surface) :
    ∃ f ∈ foreground, ∃ v, w = .token f v ∧ (v = rule.dark ∨ v = rule.light) := by
  rcases foregroundWrites_cases rule foreground surface with hnone | ⟨f, hf, v, hv, hone⟩
  · rw [hnone] at h
    cases h
  · rw [hone] at h
    obtain rfl := List.mem_singleton.1 h
    refine ⟨f, hf, v, rfl, ?_⟩
    obtain ⟨c, -, rfl⟩ := Option.map_eq_some_iff.1 hv
    split
    · exact .inl rfl
    · exact .inr rfl

/-- Every write is that of an assigned value, or of one of the two foregrounds. -/
theorem mem_writesOf {rule : ForegroundRule} {l : List Assignment} {w : Write}
    (h : w ∈ writesOf rule l) :
    ∃ a ∈ l, w = .token a.definition.token a.value ∨
      ∃ f ∈ a.definition.foreground, ∃ v, w = .token f v ∧ (v = rule.dark ∨ v = rule.light) := by
  obtain ⟨a, ha, hw⟩ := List.mem_flatMap.1 h
  refine ⟨a, ha, ?_⟩
  rcases List.mem_cons.1 hw with rfl | hw
  · exact .inl rfl
  · exact .inr (mem_foregroundWrites hw)

/-- An assignment that a command may make: the value suits the token, or it is a stored colour
in the place of one. -/
structure Assignment.Allowed (store : TokenStore) (a : Assignment) : Prop where
  styled : a.definition ∈ styled
  value : Suits a.definition.token a.value ∨
    (IsStored a.value ∧ (Hsl.read? (store.get a.definition.token)).isSome = true)

/-- The store keeps what a command assigns as it is. -/
theorem Assignment.Allowed.stored_eq {store : TokenStore} {a : Assignment} (h : a.Allowed store) :
    TokenStore.stored a.definition.token a.value = a.value := by
  rcases h.value with hv | ⟨hv, -⟩
  · exact stored_of_suits h.styled hv
  · exact stored_of_isStored hv a.definition.token

/-- Everything that a plan can be. -/
inductive Planned (rule : ForegroundRule) (store : TokenStore) : Plan → Prop
  /-- Only a reply, or a fault. -/
  | reply (reply : Except Fault Reply) : Planned rule store { reply }
  | mode (mode : Mode) (reply : Reply) (succeeds : reply.success = true) :
    Planned rule store { writes := [.mode mode], reply := .ok reply }
  | assign (l : List Assignment) (allowed : ∀ a ∈ l, a.Allowed store) (reply : Reply)
    (succeeds : reply.success = true) :
    Planned rule store { writes := writesOf rule l, patch := patchOf [] l, reply := .ok reply }
  /-- A fault after some of the assignments. -/
  | stopped (l : List Assignment) (allowed : ∀ a ∈ l, a.Allowed store) (fault : Fault) :
    Planned rule store { writes := writesOf rule l, reply := .error fault }

variable {rule : ForegroundRule} {store : TokenStore}

/-- Every write of a plan is one of the mode, of an allowed value, or of a foreground. -/
theorem Planned.forall_writes {plan : Plan} (h : Planned rule store plan) {P : Write → Prop}
    (mode : ∀ m, P (.mode m))
    (value : ∀ a : Assignment, a.Allowed store → P (.token a.definition.token a.value))
    (foreground : ∀ d ∈ styled, ∀ f ∈ d.foreground, ∀ v, v = rule.dark ∨ v = rule.light →
      P (.token f v)) :
    ∀ w ∈ plan.writes, P w := by
  have assigned : ∀ l : List Assignment, (∀ a ∈ l, a.Allowed store) →
      ∀ w ∈ writesOf rule l, P w := by
    intro l hl w hw
    obtain ⟨a, ha, rfl | ⟨f, hf, v, rfl, hv⟩⟩ := mem_writesOf hw
    · exact value a (hl a ha)
    · exact foreground _ (hl a ha).styled f hf v hv
  cases h with
  | reply reply => simp
  | mode m reply succeeds =>
    intro w hw
    obtain rfl := List.mem_singleton.1 hw
    exact mode m
  | assign l allowed reply succeeds => exact assigned l allowed
  | stopped l allowed fault => exact assigned l allowed

/-! ## Style commands -/

theorem Planned.value {a : Assignment} (h : a.Allowed store) {reply : Reply}
    (hr : reply.success = true) :
    Planned rule store
      (planValue rule a.definition.token a.definition.foreground (some a.definition.path) a.value
        reply) := by
  have ha : ∀ b ∈ [a], b.Allowed store := by simpa using h
  have hp : Planned rule store
      { writes := writesOf rule [a], patch := patchOf [] [a], reply := .ok reply } :=
    .assign [a] ha reply hr
  rwa [writesOf_singleton, patchOf_singleton] at hp

theorem Planned.answer (reply : Reply) : Planned rule store (.answer reply) := .reply (.ok reply)

theorem planned_planMode (current : Mode) (value : Option String) :
    Planned rule store (planMode current value) := .mode _ _ rfl

theorem planned_planRelative (intent : Intent) {binding : Binding}
    (hb : binding.definition ∈ styled) (phrase : String) (direction : Direction) :
    Planned rule store (planRelative rule store intent binding phrase direction) := by
  cases planRelative_cases rule store intent binding phrase direction with
  | fault fault stopped plan =>
    rw [plan]
    exact .reply _
  | refused reason found plan =>
    rw [plan]
    exact .answer _
  | bound change found own plan =>
    rw [plan]
    refine Planned.value (a := ⟨binding.definition, change.newValue⟩) ⟨hb, ?_⟩ rfl
    rcases relativeChange_ok found with ⟨s, hs, ⟨step, hstep⟩, hv⟩ | ⟨-, hv, hr⟩
    · have hsuits := suits_of_step hs hv
      rw [own _ _ hstep] at hsuits
      exact .inl hsuits
    · exact .inr ⟨hv, hr⟩
  | scale change token step found stepped other plan =>
    rcases relativeChange_ok found with ⟨s, hs, ⟨_, hstep⟩, hv⟩ | ⟨hn, -, -⟩
    · -- a scale has a token of its own, which another definition may be bound to
      obtain rfl := (Prod.mk.inj (Option.some.inj (stepped.symm.trans hstep))).1
      obtain ⟨d, hd, hdt, ht, hf⟩ := definition_of_scale s hs
      have hsuits := suits_of_step hs hv
      rw [← ht] at hsuits
      rw [plan, hdt, ← ht, ← hf]
      exact Planned.value (a := ⟨d, change.newValue⟩) ⟨hd, .inl hsuits⟩ rfl
    · rw [hn] at stepped
      cases stepped

theorem absoluteDefinition_mem (intent : Intent) {bound : Definition} (hb : bound ∈ styled)
    (value : String) : absoluteDefinition intent bound value ∈ styled := by
  unfold absoluteDefinition
  split
  · exact radius_mem_styled
  · exact hb

theorem planned_planAbsolute {settings : Settings} (intent : Intent) {binding : Binding}
    (hb : binding.definition ∈ styled) :
    Planned settings.foreground store (planAbsolute settings intent binding) := by
  cases planAbsolute_cases settings intent binding with
  | unknown definition chosen unknown plan =>
    rw [plan]
    exact .answer _
  | found definition found chosen known plan =>
    have hd : definition ∈ styled := by
      rw [chosen]
      exact absoluteDefinition_mem intent hb _
    rw [plan]
    exact Planned.value (a := ⟨definition, found.value⟩) ⟨hd, .inl (suits_absoluteValue known)⟩ rfl

theorem planned_planStyle (settings : Settings) (intent : Intent) (selection : Option Selection) :
    Planned settings.foreground store (planStyle settings store intent selection) := by
  cases planStyle_cases settings store intent selection with
  | unbound unknown resolved plan =>
    rw [plan]
    exact .answer _
  | mode binding resolved category plan =>
    rw [plan]
    exact planned_planMode store.mode intent.value
  | step binding direction phrase resolved category asks value present plan =>
    rw [plan]
    exact planned_planRelative intent (mem_styled.2 ⟨resolve_mem resolved, category⟩) _ _
  | value binding resolved category noStep plan =>
    rw [plan]
    exact planned_planAbsolute intent (mem_styled.2 ⟨resolve_mem resolved, category⟩)

/-! ## Presets -/

/-- How far a preset has come: the writes and the patch are those of allowed assignments, and a
working colour that was changed is a stored colour. -/
structure Followed (rule : ForegroundRule) (store : TokenStore) (p : PresetProgress) : Prop where
  assigned : ∃ l : List Assignment, (∀ a ∈ l, a.Allowed store) ∧ p.writes = writesOf rule l ∧
    p.patch = patchOf [] l
  working : p.recolored = true → IsStored p.working

theorem followed_start (working : String) : Followed rule store { working } where
  assigned := ⟨[], by simp, rfl, rfl⟩
  working := by simp

theorem followed_step {p q : PresetProgress} (h : Followed rule store p)
    {property directive : String} (hq : followDirective p property directive = .ok q) :
    Followed rule store q := by
  cases followDirective_cases p property directive with
  | corners value about known result =>
    cases result.symm.trans hq
    obtain ⟨l, hl, hw, hp⟩ := h.assigned
    have hsuits : Suits radius.token value :=
      suits_radius.2 (radius_values _ (mem_values_of_lookup known))
    have ha : Assignment.Allowed store ⟨radius, value⟩ := ⟨radius_mem_styled, .inl hsuits⟩
    refine ⟨⟨l ++ [⟨radius, value⟩], ?_, ?_, ?_⟩, h.working⟩
    · exact List.forall_mem_append.2 ⟨hl, List.forall_mem_singleton.2 ha⟩
    · rw [writesOf_append, writesOf_singleton, hw]
      rfl
    · rw [patchOf_append, hp]
      rfl
  | step direction change about asks stepped result =>
    cases result.symm.trans hq
    exact ⟨h.assigned, fun _ => (adjustColor_isStored stepped).2.1⟩
  | fault direction fault about asks stopped result => cases result.symm.trans hq
  | skip unknown result =>
    cases result.symm.trans hq
    exact h

theorem followed_run {p : PresetProgress} (h : Followed rule store p)
    (directives : List (String × String)) :
    Followed rule store (followDirectives p directives).1 := by
  induction directives generalizing p with
  | nil => exact h
  | cons directive rest ih =>
    obtain ⟨property, word⟩ := directive
    rw [followDirectives]
    split
    · exact h
    · rename_i q hq
      exact ih (followed_step h hq)

theorem planned_planPreset (intent : Intent) :
    Planned rule store (planPreset rule store intent) := by
  have hstart : Followed rule store { working := store.get primary.token } := followed_start _
  cases planPreset_cases rule store intent with
  | unknown missing plan =>
    rw [plan]
    exact .answer _
  | stopped preset p fault known followed plan =>
    have hrun := followed_run hstart preset.directives
    rw [followed] at hrun
    obtain ⟨l, hl, hw, -⟩ := hrun.assigned
    dsimp only at hw
    rw [plan, hw]
    exact .stopped l hl fault
  | applied preset p known followed plan =>
    have hrun := followed_run hstart preset.directives
    rw [followed] at hrun
    obtain ⟨l, hl, hw, hp⟩ := hrun.assigned
    dsimp only at hw hp
    rw [plan, hw, hp]
    dsimp only
    split
    · rename_i hr
      have hsuits : Suits primary.token p.working := (suits_of_color rfl).2 (hrun.working hr)
      have ha : Assignment.Allowed store ⟨primary, p.working⟩ := ⟨primary_mem_styled, .inl hsuits⟩
      rw [← writesOf_singleton rule ⟨primary, p.working⟩, ← writesOf_append,
        ← patchOf_singleton _ ⟨primary, p.working⟩, ← patchOf_append]
      exact .assign _ (List.forall_mem_append.2 ⟨hl, List.forall_mem_singleton.2 ha⟩) _ rfl
    · exact .assign l hl _ rfl

/-! ## All commands -/

/-- **Every plan of an intent is one of these.** -/
theorem planned_planIntent (settings : Settings) (store : TokenStore) (intent : Intent)
    (selection : Option Selection) :
    Planned settings.foreground store (planIntent settings store intent selection) := by
  cases planIntent_cases settings store intent selection with
  | answer reply kind told plan =>
    rw [plan]
    exact .answer reply
  | mode kind plan =>
    rw [plan]
    exact planned_planMode store.mode intent.value
  | preset kind plan =>
    rw [plan]
    exact planned_planPreset intent
  | style kind plan =>
    rw [plan]
    exact planned_planStyle settings intent selection

/-- **So is every plan of a text.** -/
theorem planned_planText (settings : Settings) (store : TokenStore) (text : String)
    (selection : Option Selection) :
    Planned settings.foreground store (planText settings store text selection) := by
  cases planText_cases settings store text selection with
  | help asks plan =>
    rw [plan]
    exact .answer _
  | misread reason asks read plan =>
    rw [plan]
    exact .reply _
  | intent intent asks read plan =>
    rw [plan]
    exact planned_planIntent settings store intent selection

end Restyle.Interpreter
