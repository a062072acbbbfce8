import Restyle.Proofs.Interpreter.Carried
import Restyle.Proofs.Interpreter.Patch

/-!
# Tokens with an entry of the theme

A token that a definition is bound to has an entry of the theme.  A command without a fault
assigns values to such tokens, reports them among its changes, leaves the last of them in the
store, and hands over a patch of all of them.

* `mirrored?` — the definition whose entry mirrors a token.
* `mirror`, `entry_mirror` — the entries of changed tokens, with the values that the store holds.
* `serve_assigns` — what a command does to tokens with an entry.
-/

set_option autoImplicit false

namespace Restyle.Interpreter

open Restyle.Color Restyle.Store Restyle.Sync Restyle.Target

/-! ## Mirrored tokens -/

/-- The definition whose entry mirrors a token: the first one bound to it, unless that is the
mode. -/
def mirrored? (token : String) : Option Definition :=
  (definitionOfToken? token).filter (·.category != .mode)

theorem mirrored?_mem {token : String} {d : Definition} (h : mirrored? token = some d) :
    d ∈ styled ∧ d.token = token := by
  rw [mirrored?, Option.filter_eq_some_iff] at h
  obtain ⟨hm, ht⟩ := definitionOfToken?_mem h.1
  exact ⟨mem_styled.2 ⟨hm, bne_iff_ne.1 h.2⟩, ht⟩

theorem mirrored?_of_styled : ∀ d ∈ styled, (mirrored? d.token).isSome = true := by
  decide +kernel

theorem mirrored?_mode : mirrored? "mode" = none := by decide +kernel

theorem mirrored?_foreground {d : Definition} (hd : d ∈ styled) {f : String}
    (hf : f ∈ d.foreground) : mirrored? f = none := by
  rw [mirrored?, (foreground_of_mem d hd f hf).2.2.2]
  rfl

/-- Every definition of a style command has the place of the one that mirrors its token. -/
theorem exists_mirrored {d : Definition} (hd : d ∈ styled) :
    ∃ e ∈ styled, mirrored? d.token = some e ∧ e.token = d.token ∧ e.path = d.path := by
  obtain ⟨e, he⟩ := Option.isSome_iff_exists.1 (mirrored?_of_styled d hd)
  obtain ⟨hs, ht⟩ := mirrored?_mem he
  exact ⟨e, hs, he, ht, (path_eq_iff e hs d hd).2 ht⟩

/-- The definitions that mirror the tokens of changes, in their order. -/
def changedDefinitions (changes : List Change) : List Definition :=
  (changes.map (·.token)).filterMap mirrored?

theorem changedDefinitions_append (a b : List Change) :
    changedDefinitions (a ++ b) = changedDefinitions a ++ changedDefinitions b := by
  rw [changedDefinitions, List.map_append, List.filterMap_append]
  rfl

/-- The entries of changed tokens, with the values that the store holds. -/
def mirror (store : TokenStore) (changes : List Change) : Theme :=
  patchOf [] ((changedDefinitions changes).map fun d => ⟨d, store.get d.token⟩)

theorem mem_changedDefinitions {changes : List Change} {d : Definition}
    (h : d ∈ changedDefinitions changes) : d ∈ styled := by
  obtain ⟨token, -, ht⟩ := List.mem_filterMap.1 h
  exact (mirrored?_mem ht).1

/-- The value of one definition among those that are assigned the value of their token. -/
theorem entry_patchOf {ds : List Definition} (hds : ∀ d ∈ ds, d ∈ styled)
    (value : String → String) (theme : Theme) (g e : String) :
    Assoc.get? (fieldsAt (patchOf theme (ds.map fun d => ⟨d, value d.token⟩)) g) e =
      match ds.find? (·.path = ⟨g, some e⟩) with
      | some d => some (.text (value d.token))
      | none => Assoc.get? (fieldsAt theme g) e := by
  induction ds generalizing theme with
  | nil => rfl
  | cons d rest ih =>
    have hd := hds d List.mem_cons_self
    obtain ⟨g', e', hp⟩ := exists_entry hd
    rw [List.map_cons, patchOf_cons, ih fun b hb => hds b (List.mem_cons_of_mem _ hb)]
    dsimp only
    rw [hp, entry_addToPatch, List.find?_cons, hp]
    by_cases h : (⟨g', some e'⟩ : ThemePath) = ⟨g, some e⟩
    · obtain ⟨rfl, rfl⟩ : g' = g ∧ e' = e := by simpa using h
      simp only [decide_true, and_self, if_true]
      split
      · -- another definition of the same place has the same token
        rename_i d' hf
        have hpath : d'.path = ⟨g', some e'⟩ := by simpa using List.find?_some hf
        have hd' := hds d' (List.mem_cons_of_mem _ (List.mem_of_find?_eq_some hf))
        rw [(path_eq_iff d' hd' d hd).1 (hpath.trans hp.symm)]
      · rfl
    · have hge : ¬(g = g' ∧ e = e') := by
        rintro ⟨rfl, rfl⟩
        exact h rfl
      simp only [h, decide_false, if_neg hge]

/-- An entry of the mirror is there for a changed token alone, and has its value. -/
theorem entry_mirror (store : TokenStore) (changes : List Change) (g e : String) :
    Assoc.get? (fieldsAt (mirror store changes) g) e =
      ((changedDefinitions changes).find? (·.path = ⟨g, some e⟩)).map
        fun d => .text (store.get d.token) := by
  rw [mirror, entry_patchOf (fun d hd => mem_changedDefinitions hd) store.get]
  split
  · rename_i d hf
    rw [hf]
    rfl
  · rename_i hf
    rw [hf]
    rfl

/-- The mirror of no changed token is empty, and only that one. -/
theorem mirror_eq_nil_iff (store : TokenStore) (changes : List Change) :
    mirror store changes = [] ↔ changedDefinitions changes = [] := by
  constructor
  · intro h
    by_contra hne
    exact patchOf_ne_nil (by simpa using hne) [] h
  · intro h
    rw [mirror, h]
    rfl

/-- The definitions that mirror the tokens of assignments, in their order. -/
def assignedDefinitions (l : List Assignment) : List Definition :=
  l.filterMap fun a => mirrored? a.definition.token

theorem assignedDefinitions_cons {a : Assignment} {d : Definition}
    (h : mirrored? a.definition.token = some d) (l : List Assignment) :
    assignedDefinitions (a :: l) = d :: assignedDefinitions l :=
  List.filterMap_cons_some h

/-- The definitions that mirror tokens may stand for those that were assigned. -/
theorem patchOf_assignedDefinitions {l : List Assignment} (hl : ∀ a ∈ l, a.definition ∈ styled)
    (value : String → String) (theme : Theme) :
    patchOf theme ((assignedDefinitions l).map fun d => ⟨d, value d.token⟩) =
      patchOf theme (settled l value) := by
  induction l generalizing theme with
  | nil => rfl
  | cons a rest ih =>
    obtain ⟨d, -, hd, ht, hp⟩ := exists_mirrored (hl a List.mem_cons_self)
    rw [assignedDefinitions_cons hd, List.map_cons, patchOf_cons, settled, List.map_cons,
      patchOf_cons, hp, ht]
    exact ih (fun b hb => hl b (List.mem_cons_of_mem _ hb)) _

/-! ## Writes -/

variable {rule : ForegroundRule} {d : Definition} {store : TokenStore}

theorem get_writesOf {l : List Assignment} (hl : ∀ a ∈ l, a.definition ∈ styled)
    (hstored : ∀ a ∈ l, TokenStore.stored a.definition.token a.value = a.value) (hd : d ∈ styled) :
    (performWrites store (writesOf rule l)).1.get d.token =
      lastValue l d.token (store.get d.token) := by
  induction l generalizing store with
  | nil => rfl
  | cons a rest ih =>
    have hnot : d.token ∉ a.definition.foreground := fun h =>
      token_ne_foreground (hl a List.mem_cons_self) h hd rfl
    rw [writesOf_cons, performWrites_append, ih (fun b hb => hl b (List.mem_cons_of_mem _ hb))
      (fun b hb => hstored b (List.mem_cons_of_mem _ hb)), surfaceWrites, performWrites_cons,
      get_foregroundWrites hnot, get_perform, hstored a List.mem_cons_self, lastValue_cons]
    simp only [eq_comm]

theorem targets_writesOf {l : List Assignment} (hl : ∀ a ∈ l, a.definition ∈ styled) :
    ((writesOf rule l).map Write.target).filterMap mirrored? = assignedDefinitions l := by
  induction l with
  | nil => rfl
  | cons a rest ih =>
    obtain ⟨d, -, hd, -, -⟩ := exists_mirrored (hl a List.mem_cons_self)
    have hforeground : ((foregroundWrites rule a.definition.foreground a.value).map
        Write.target).filterMap mirrored? = [] := by
      rw [List.filterMap_map, List.filterMap_eq_nil_iff]
      intro w hw
      obtain ⟨f, hf, v, rfl, -⟩ := mem_foregroundWrites hw
      exact mirrored?_foreground (hl a List.mem_cons_self) hf
    rw [writesOf_cons, surfaceWrites, List.map_append, List.filterMap_append, List.map_cons,
      Write.target, List.filterMap_cons_some hd, hforeground,
      ih fun b hb => hl b (List.mem_cons_of_mem _ hb),
      assignedDefinitions_cons hd]
    rfl

/-! ## Commands -/

/-- What assignments do: the changes among which they are reported, the values that they leave
in the store, and the patch that is handed over. -/
structure Assigns (l : List Assignment) (s : Session) (key : Option String) (r : Result)
    (report : Report) : Prop where
  styled : ∀ a ∈ l, a.definition ∈ styled
  changes : changedDefinitions r.changes = assignedDefinitions l
  holds : ∀ d ∈ Target.styled,
    report.session.store.get d.token = lastValue l d.token (s.store.get d.token)
  collaborator : report.session.collaborator = s.collaborator.persist key (patchOf [] l)

/-- **A command without a fault makes assignments.** -/
theorem serve_assigns {s : Session} {request : Request} {selection : Option Selection}
    {key : Option String} {r : Result} (h : (s.serve request selection key).outcome = .ok r) :
    ∃ l, Assigns l s key r (s.serve request selection key) := by
  rw [Session.serve_eq] at h ⊢
  have hplan := planned_planRequest s.settings s.store request selection
  obtain ⟨hr, hc, hs, -⟩ := carryOut_ok h
  generalize planRequest s.settings s.store request selection = plan at *
  have hchanges : changedDefinitions r.changes =
      (plan.writes.map Write.target).filterMap mirrored? := by
    rw [changedDefinitions, hc, changes_performWrites]
  cases hplan with
  | reply reply => exact ⟨[], by simp, hchanges, fun d _ => by rw [hs]; rfl, by rw [hs]; rfl⟩
  | mode mode reply succeeds =>
    refine ⟨[], by simp, ?_, fun d _ => by rw [hs]; rfl, by rw [hs]; rfl⟩
    rw [hchanges]
    exact List.filterMap_cons_none mirrored?_mode
  | assign l allowed reply succeeds =>
    have hl : ∀ a ∈ l, a.definition ∈ styled := fun a ha => (allowed a ha).styled
    refine ⟨l, hl, ?_, ?_, ?_⟩
    · rw [hchanges]
      exact targets_writesOf hl
    · intro d hd
      rw [hs]
      exact get_writesOf hl (fun a ha => (allowed a ha).stored_eq) hd
    · rw [hs]
  | stopped l allowed fault => cases hr

end Restyle.Interpreter
