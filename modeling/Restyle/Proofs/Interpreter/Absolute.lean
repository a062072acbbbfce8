import Restyle.Proofs.Assoc
import Restyle.Proofs.Interpreter.Foregrounds
import Restyle.Proofs.Interpreter.ModeNames

/-!
# Absolute style commands

A style command that asks for a value, and not for more or less of something, is worked out from
the command and the settings alone.  So it comes to the same whatever the store holds, its writes
change nothing when they are made again, and two such commands that change different tokens may be
carried out in either order.

* `written` — what writes leave in a token.
* `performWrites_of_held` — writes that are held already change nothing.
* `Absolute.exists_plan` — the plan of an absolute command, which asks nothing of the store.
* `absolute_commands` — one command, the same one twice, and two in either order.
-/

set_option autoImplicit false

namespace Restyle.Interpreter

open Restyle.Change Restyle.Color Restyle.Command Restyle.Matching Restyle.Store Restyle.Target

/-! ## What writes leave -/

/-- What writes leave in a token, if one of them is to the token. -/
def written (l : List Write) (token : String) : Option String :=
  match l with
  | [] => none
  | .token name value :: rest =>
    (written rest token).or (if token = name then some (TokenStore.stored name value) else none)
  | .mode _ :: rest => written rest token

variable {store : TokenStore} {l : List Write} {token : String}

/-- A token holds what was written last, or what it held before. -/
theorem get?_performWrites : Assoc.get? (performWrites store l).1.tokens token =
    (written l token).or (Assoc.get? store.tokens token) := by
  induction l generalizing store with
  | nil => rfl
  | cons w rest ih =>
    rw [performWrites_cons, ih]
    cases w with
    | token name value =>
      rw [written, Option.or_assoc]
      congr 1
      simp only [Write.perform, TokenStore.set, Tokens.put, Assoc.get?_put]
      split <;> rfl
    | mode m => rfl

theorem written_of_not_mem (h : token ∉ l.map Write.target) : written l token = none := by
  induction l with
  | nil => rfl
  | cons w rest ih =>
    rw [List.map_cons, List.mem_cons, not_or] at h
    cases w with
    | token name value =>
      have hne : token ≠ name := h.1
      rw [written, ih h.2, Option.none_or, if_neg hne]
    | mode m => exact ih h.2

/-- The only write to a token counts. -/
theorem written_of_mem (hnodup : (l.map Write.target).Nodup) {name value : String}
    (h : .token name value ∈ l) : written l name = some (TokenStore.stored name value) := by
  induction l with
  | nil => cases h
  | cons w rest ih =>
    rw [List.map_cons, List.nodup_cons] at hnodup
    rcases List.mem_cons.1 h with rfl | hrest
    · have hlast : written rest name = none := written_of_not_mem hnodup.1
      rw [written, hlast, Option.none_or, if_pos rfl]
    · cases w with
      | token other v => rw [written, ih hnodup.2 hrest, Option.some_or]
      | mode m => exact ih hnodup.2 hrest

/-- A write to a token, and not of the mode. -/
def Write.ToToken : Write → Prop
  | .token _ _ => True
  | .mode _ => False

/-- Two stores hold the same in every token, and are alike otherwise.  Tokens that were new to them
may stand in another order. -/
structure SameStore (a b : TokenStore) : Prop where
  tokens : ∀ token, Assoc.get? a.tokens token = Assoc.get? b.tokens token
  rest : { a with tokens := [] } = { b with tokens := [] }

/-- Writes to tokens leave the rest of the store alone. -/
theorem rest_performWrites (h : ∀ w ∈ l, w.ToToken) :
    { (performWrites store l).1 with tokens := [] } = { store with tokens := [] } := by
  refine performWrites_induction (P := fun after => { after with tokens := [] } =
    { store with tokens := [] }) ?_ rfl
  intro w hw between hbetween
  rw [← hbetween]
  cases w with
  | token name value => rfl
  | mode m => exact absurd (h _ hw) id

/-! ## Writes that are made again -/

/-- A store holds already what is written. -/
def Write.HeldBy (store : TokenStore) : Write → Prop
  | .token name value => Assoc.get? store.tokens name = some (TokenStore.stored name value)
  | .mode m => store.mode = m

/-- **What is held already may be written again.** -/
theorem performWrites_of_held (h : ∀ w ∈ l, w.HeldBy store) : (performWrites store l).1 = store := by
  refine performWrites_induction (P := fun after => after = store) ?_ rfl
  rintro w hw after rfl
  have hheld := h w hw
  cases w with
  | token name value => simp [Write.perform, TokenStore.set, Tokens.put, Assoc.put_of_get? hheld]
  | mode m => simp [Write.perform, TokenStore.setMode, ← show after.mode = m from hheld]

/-- Writes to different tokens are held afterwards. -/
theorem held_performWrites (hnodup : (l.map Write.target).Nodup) (htoken : ∀ w ∈ l, w.ToToken) :
    ∀ w ∈ l, w.HeldBy (performWrites store l).1 := by
  intro w hw
  cases w with
  | token name value =>
    rw [Write.HeldBy, get?_performWrites, written_of_mem hnodup hw, Option.some_or]
  | mode m => exact absurd (htoken _ hw) id

/-- **Writes to different tokens may be made twice.** -/
theorem performWrites_twice (hnodup : (l.map Write.target).Nodup) (htoken : ∀ w ∈ l, w.ToToken) :
    (performWrites (performWrites store l).1 l).1 = (performWrites store l).1 :=
  performWrites_of_held (held_performWrites hnodup htoken)

/-- **Writes to tokens may be made before or after writes to other tokens.** -/
theorem performWrites_comm {m : List Write} (hl : ∀ w ∈ l, w.ToToken) (hm : ∀ w ∈ m, w.ToToken)
    (hdisjoint : ∀ token, token ∈ l.map Write.target → token ∉ m.map Write.target) :
    SameStore (performWrites (performWrites store l).1 m).1
      (performWrites (performWrites store m).1 l).1 where
  tokens := by
    intro token
    simp only [get?_performWrites]
    by_cases htoken : token ∈ l.map Write.target
    · rw [written_of_not_mem (hdisjoint token htoken), Option.none_or, Option.none_or]
    · rw [written_of_not_mem htoken, Option.none_or, Option.none_or]
  rest := by
    rw [rest_performWrites hm, rest_performWrites hl, rest_performWrites hl, rest_performWrites hm]

/-! ## Plans -/

/-- An absolute style command: it asks neither for more nor for less, and it is not bound to the
mode. -/
structure Absolute (settings : Settings) (intent : Intent) (selection : Option Selection) :
    Prop where
  style : intent.kind = .style
  direction : intent.direction = none
  unmoded : ∀ binding,
    resolve scoreRounding (targetLimits settings.thresholds) intent selection = .ok binding →
      binding.definition.category ≠ .mode

theorem toToken_surfaceWrites (rule : ForegroundRule) (token : String) (foreground : Option String)
    (value : String) : ∀ w ∈ surfaceWrites rule token foreground value, w.ToToken := by
  refine List.forall_mem_cons.2 ⟨trivial, fun w hw => ?_⟩
  obtain ⟨f, -, v, rfl, -⟩ := mem_foregroundWrites hw
  trivial

/-- A surface and its foreground are different tokens. -/
theorem nodup_surfaceWrites (rule : ForegroundRule) {d : Definition} (hd : d ∈ styled)
    (value : String) : ((surfaceWrites rule d.token d.foreground value).map Write.target).Nodup := by
  rw [surfaceWrites, List.map_cons, List.nodup_cons]
  constructor
  · intro hmem
    obtain ⟨w, hw, ht⟩ := List.mem_map.1 hmem
    obtain ⟨f, hf, v, rfl, -⟩ := mem_foregroundWrites hw
    exact token_ne_foreground hd hf hd ht.symm
  · rcases foregroundWrites_cases rule d.foreground value with hnone | ⟨f, -, v, -, hone⟩
    · rw [hnone]
      exact List.nodup_nil
    · rw [hone]
      exact List.nodup_singleton _

/-- A plan that writes to different tokens, and comes to a reply. -/
structure Plan.Plain (plan : Plan) : Prop where
  replies : ∃ reply, plan.reply = .ok reply
  toTokens : ∀ w ∈ plan.writes, w.ToToken
  nodup : (plan.writes.map Write.target).Nodup

theorem Plan.plain_answer (reply : Reply) : (Plan.answer reply).Plain where
  replies := ⟨reply, rfl⟩
  toTokens := List.forall_mem_nil _
  nodup := List.nodup_nil

variable {settings : Settings} {intent : Intent} {selection : Option Selection}

theorem plain_planAbsolute {binding : Binding} (hb : binding.definition ∈ styled) :
    (planAbsolute settings intent binding).Plain := by
  cases planAbsolute_cases settings intent binding with
  | unknown definition chosen unknown plan =>
    rw [plan]
    exact Plan.plain_answer _
  | found definition found chosen known plan =>
    have hd : definition ∈ styled := by
      rw [chosen]
      exact absoluteDefinition_mem intent hb _
    rw [plan]
    exact {
      replies := ⟨_, rfl⟩
      toTokens := toToken_surfaceWrites _ _ _ _
      nodup := nodup_surfaceWrites _ hd _ }

/-- **The plan of an absolute command asks nothing of the store.** -/
theorem Absolute.exists_plan (h : Absolute settings intent selection) :
    ∃ plan : Plan, plan.Plain ∧ ∀ store, planIntent settings store intent selection = plan := by
  simp only [planIntent, h.style]
  cases hr : resolve scoreRounding (targetLimits settings.thresholds) intent selection with
  | error e =>
    let message := Message.unknownTarget e.term
    exact ⟨.answer (failure intent .unknownTarget message message), Plan.plain_answer _,
      fun store => by rw [planStyle, hr]⟩
  | ok binding =>
    have hmode := h.unmoded binding hr
    exact ⟨planAbsolute settings intent binding,
      plain_planAbsolute (mem_styled.2 ⟨resolve_mem hr, hmode⟩),
      fun store => planStyle_absolute hr hmode h.direction⟩

/-! ## Commands -/

/-- What is told of a command apart from the old values: the reply, and the tokens with the values
that they were given. -/
def Report.told (report : Report) : Except Fault (Reply × List (String × String)) :=
  report.outcome.map fun r => (r.toReply, r.changes.map fun c => (c.token, c.newValue))

theorem told_carryOut (s : Session) {plan : Plan} {reply : Reply} (hreply : plan.reply = .ok reply)
    (key : Option String) :
    (s.carryOut plan key).told = .ok (reply, plan.writes.map Write.asked) ∧
      (s.carryOut plan key).session.collaborator = s.collaborator.persist key plan.patch := by
  unfold Report.told Session.carryOut
  rw [hreply]
  refine ⟨?_, rfl⟩
  rw [← asked_performWrites s.store]
  rfl

theorem changes_carryOut (s : Session) {plan : Plan} {reply : Reply}
    (hreply : plan.reply = .ok reply) (key : Option String) (token : String) :
    (s.carryOut plan key).Changes token ↔ token ∈ plan.writes.map Write.target := by
  unfold Report.Changes Session.carryOut
  rw [hreply, ← changes_performWrites s.store]
  simp

variable {s : Session} {plan : Plan}

/-- A command is the plan that it comes to, in every session with these settings. -/
theorem executeIntent_of_plan (h : ∀ store, planIntent s.settings store intent selection = plan)
    (key : Option String) {t : Session} (ht : t.settings = s.settings) :
    t.executeIntent intent selection key = t.carryOut plan key := by
  rw [Session.executeIntent, ht, h]

theorem twice_carryOut (hplain : plan.Plain) (key : Option String) :
    ((s.carryOut plan key).session.carryOut plan key).session.store =
      (s.carryOut plan key).session.store := by
  rw [(carryOut_store _ _ _).1, (carryOut_store _ _ _).1]
  exact performWrites_twice hplain.nodup hplain.toTokens

theorem comm_carryOut {other : Plan} (hplain : plan.Plain) (hother : other.Plain)
    {key otherKey : Option String} (hdisjoint : ∀ token,
      (s.carryOut plan key).Changes token → ¬(s.carryOut other otherKey).Changes token) :
    SameStore ((s.carryOut plan key).session.carryOut other otherKey).session.store
      ((s.carryOut other otherKey).session.carryOut plan key).session.store := by
  obtain ⟨reply, hreply⟩ := hplain.replies
  obtain ⟨reply', hreply'⟩ := hother.replies
  simp only [changes_carryOut s hreply, changes_carryOut s hreply'] at hdisjoint
  simp only [(carryOut_store _ _ _).1]
  exact performWrites_comm hplain.toTokens hother.toTokens hdisjoint

/-- **Absolute style commands do not depend on what the store holds**: such a command is told of
alike and hands over the same patch for all stores, carrying it out twice leaves the store as
carrying it out once does, and two such commands that change different tokens leave the same store
in either order. -/
theorem absolute_commands (s : Session) (intent : Intent) (selection : Option Selection)
    (key : Option String) (h : Absolute s.settings intent selection) :
    (∃ told patch, ∀ store,
      (({ s with store }).executeIntent intent selection key).told = .ok told ∧
      (({ s with store }).executeIntent intent selection key).session.collaborator =
        s.collaborator.persist key patch) ∧
    ((s.executeIntent intent selection key).session.executeIntent intent selection
      key).session.store = (s.executeIntent intent selection key).session.store ∧
    ∀ (other : Intent) (otherSelection : Option Selection) (otherKey : Option String),
      Absolute s.settings other otherSelection →
      (∀ token, (s.executeIntent intent selection key).Changes token →
        ¬(s.executeIntent other otherSelection otherKey).Changes token) →
      SameStore
        ((s.executeIntent intent selection key).session.executeIntent other otherSelection
          otherKey).session.store
        ((s.executeIntent other otherSelection otherKey).session.executeIntent intent selection
          key).session.store := by
  obtain ⟨plan, hplain, hplan⟩ := h.exists_plan
  obtain ⟨reply, hreply⟩ := hplain.replies
  have hrun (t : Session) (ht : t.settings = s.settings) := executeIntent_of_plan hplan key ht
  rw [hrun s rfl, hrun _ (carryOut_store s plan key).2]
  refine ⟨⟨(reply, plan.writes.map Write.asked), plan.patch, fun store => ?_⟩,
    twice_carryOut hplain key, fun other otherSelection otherKey h' hdisjoint => ?_⟩
  · rw [hrun { s with store } rfl]
    exact told_carryOut _ hreply key
  · obtain ⟨plan', hplain', hplan'⟩ := h'.exists_plan
    have hrun' (t : Session) (ht : t.settings = s.settings) :=
      executeIntent_of_plan hplan' otherKey ht
    rw [hrun' s rfl] at hdisjoint
    rw [hrun' s rfl, hrun' _ (carryOut_store s plan key).2,
      hrun _ (carryOut_store s plan' otherKey).2]
    exact comm_carryOut hplain hplain' hdisjoint

/-- The intent of "make the corners large". -/
def largeCorners : Intent :=
  { kind := .style, confidence := 9 / 10, target := some "corners", value := some "large",
    raw := "make the corners large" }

/-- The intent of "make the primary blue". -/
def bluePrimary : Intent :=
  { kind := .style, confidence := 9 / 10, target := some "primary", value := some "blue",
    raw := "make the primary blue" }

theorem absolute_of_resolve {b : Binding} (hstyle : intent.kind = .style)
    (hdirection : intent.direction = none) (hmode : b.definition.category ≠ .mode)
    (hresolve : resolve scoreRounding (targetLimits settings.thresholds) intent selection =
      .ok b) : Absolute settings intent selection where
  style := hstyle
  direction := hdirection
  unmoded := by
    intro other hother
    rw [hresolve] at hother
    cases hother
    exact hmode

theorem mem_of_changes {report : Report} {tokens : List String}
    (htokens : report.outcome.toOption.map (fun r => r.changes.map (·.token)) = some tokens)
    (h : report.Changes token) : token ∈ tokens := by
  obtain ⟨r, hr, hmem⟩ := h
  rw [hr] at htokens
  exact Option.some.inj htokens ▸ hmem

/-- Large corners and a blue primary colour, in either order. -/
theorem absolute_commands_corners :
    let s : Session := {}
    let large := (s.executeIntent largeCorners none none).session
    let blue := (s.executeIntent bluePrimary none none).session
    (large.executeIntent largeCorners none none).session.store = large.store ∧
      SameStore (large.executeIntent bluePrimary none none).session.store
        (blue.executeIntent largeCorners none none).session.store ∧
      large.store.get "radius" = "0.75rem" ∧ blue.store.get "primary" = "217 91% 60%" := by
  intro s large blue
  have hlarge : Absolute s.settings largeCorners none :=
    absolute_of_resolve (b := { definition := radius }) rfl rfl (by decide) (by decide +kernel)
  have hblue : Absolute s.settings bluePrimary none :=
    absolute_of_resolve (b := { definition := primary }) rfl rfl (by decide) (by decide +kernel)
  have hcorners : (s.executeIntent largeCorners none none).outcome.toOption.map
      (fun r => r.changes.map (·.token)) = some ["radius"] := by decide +kernel
  have hprimary : (s.executeIntent bluePrimary none none).outcome.toOption.map
      (fun r => r.changes.map (·.token)) = some ["primary", "primary-foreground"] := by decide +kernel
  obtain ⟨-, htwice, hcomm⟩ := absolute_commands s largeCorners none none hlarge
  refine ⟨htwice, hcomm bluePrimary none none hblue ?_, by decide +kernel, by decide +kernel⟩
  intro token hradius hother
  have hmem := mem_of_changes hcorners hradius
  have hmem' := mem_of_changes hprimary hother
  rw [List.mem_singleton.1 hmem] at hmem'
  exact absurd hmem' (by decide)

end Restyle.Interpreter
