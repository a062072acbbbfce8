import Restyle.Proofs.Interpreter.Absolute
import Restyle.Proofs.Interpreter.Atomic
import Restyle.Proofs.Interpreter.Interrupted
import Restyle.Proofs.Interpreter.Mirrored

/-!
# The patch of a command

A command without a fault changes no token twice.  What it hands over is read off its changes: an
entry for each changed token that a definition is bound to, with the new value, and nothing for the
mode or for a foreground.  It hands something over exactly when it changes a token.

* `nodup_planRequest` — a command writes no token twice.
* `get?_patchOf` — the entries of a patch of assignments.
* `Projects` — a patch that is the projection of changes; `Planned.projects` — that of a plan is.
* `patch_projects_changes` — what a command hands over.
-/

set_option autoImplicit false

namespace Restyle.Interpreter

open Restyle.Assoc Restyle.Change Restyle.Color Restyle.Command Restyle.Matching Restyle.Store
  Restyle.Sync Restyle.Target Restyle.Vocabulary

/-! ## No token is written twice -/

variable {rule : ForegroundRule} {settings : Settings} {store : TokenStore} {intent : Intent}
  {selection : Option Selection} {reply : Reply}

theorem nodup_planRelative {binding : Binding} (hb : binding.definition ∈ styled)
    (phrase : String) (direction : Direction) :
    ((planRelative rule store intent binding phrase direction).writes.map Write.target).Nodup := by
  cases planRelative_cases rule store intent binding phrase direction with
  | fault fault stopped plan =>
    rw [plan]
    exact List.nodup_nil
  | refused reason found plan =>
    rw [plan]
    exact List.nodup_nil
  | bound change found own plan =>
    rw [plan]
    exact nodup_surfaceWrites rule hb _
  | scale change token step found stepped other plan =>
    rw [plan]
    exact List.nodup_singleton _

theorem nodup_planStyle :
    ((planStyle settings store intent selection).writes.map Write.target).Nodup := by
  cases planStyle_cases settings store intent selection with
  | unbound unknown resolved plan =>
    rw [plan]
    exact List.nodup_nil
  | mode binding resolved category plan =>
    rw [plan]
    exact List.nodup_singleton _
  | step binding direction phrase resolved category asks value present plan =>
    rw [plan]
    exact nodup_planRelative (mem_styled.2 ⟨resolve_mem resolved, category⟩) _ _
  | value binding resolved category noStep plan =>
    rw [plan]
    exact (plain_planAbsolute (mem_styled.2 ⟨resolve_mem resolved, category⟩)).nodup

/-- A preset sets the corners once at most. -/
theorem presets_corners : ∀ preset ∈ presets,
    (preset.directives.filterMap cornerWrite?).map Write.target ∈ [[], [radius.token]] := by
  decide +kernel

/-- The corners are neither the brand colour nor its foreground. -/
theorem radius_not_mem_surfaceWrites (value : String) : radius.token ∉
    (surfaceWrites rule primary.token primary.foreground value).map Write.target := by
  rw [surfaceWrites, List.map_cons, List.mem_cons, not_or]
  have hne : radius.token ≠ primary.token := by decide
  refine ⟨hne, fun hmem => ?_⟩
  obtain ⟨w, hw, ht⟩ := List.mem_map.1 hmem
  obtain ⟨f, hf, v, rfl, -⟩ := mem_foregroundWrites hw
  exact token_ne_foreground primary_mem_styled hf radius_mem_styled ht.symm

theorem nodup_planPreset (h : (planPreset rule store intent).reply = .ok reply) :
    ((planPreset rule store intent).writes.map Write.target).Nodup := by
  cases planPreset_cases rule store intent with
  | unknown missing plan =>
    rw [plan]
    exact List.nodup_nil
  | stopped preset p fault known followed plan =>
    rw [plan] at h
    cases h
  | applied preset p known followed plan =>
    have hcorners := presets_corners preset (List.mem_of_find?_eq_some known)
    have hwrites := followDirectives_writes followed
    rw [List.nil_append] at hwrites
    rw [← hwrites] at hcorners
    rw [plan]
    dsimp only
    split
    · rw [List.map_append]
      have hsurface := nodup_surfaceWrites rule primary_mem_styled p.working
      rcases List.mem_pair.1 hcorners with he | he
      · rwa [he, List.nil_append]
      · rw [he]
        exact List.nodup_cons.2 ⟨radius_not_mem_surfaceWrites _, hsurface⟩
    · rcases List.mem_pair.1 hcorners with he | he
      · rw [he]
        exact List.nodup_nil
      · rw [he]
        exact List.nodup_singleton _

theorem nodup_planIntent (h : (planIntent settings store intent selection).reply = .ok reply) :
    ((planIntent settings store intent selection).writes.map Write.target).Nodup := by
  cases planIntent_cases settings store intent selection with
  | answer told kind hkind plan =>
    rw [plan]
    exact List.nodup_nil
  | mode kind plan =>
    rw [plan]
    exact List.nodup_singleton _
  | preset kind plan =>
    rw [plan] at h ⊢
    exact nodup_planPreset h
  | style kind plan =>
    rw [plan]
    exact nodup_planStyle

/-- **A command that comes to a reply writes no token twice.** -/
theorem nodup_planRequest {request : Request}
    (h : (planRequest settings store request selection).reply = .ok reply) :
    ((planRequest settings store request selection).writes.map Write.target).Nodup := by
  cases request with
  | intent intent => exact nodup_planIntent h
  | text text =>
    unfold planRequest at h ⊢
    dsimp only at h ⊢
    cases planText_cases settings store text selection with
    | help asks plan =>
      rw [plan]
      exact List.nodup_nil
    | misread reason asks read plan =>
      rw [plan]
      exact List.nodup_nil
    | intent intent asks read plan =>
      rw [plan] at h ⊢
      exact nodup_planIntent h

/-! ## The entries of assignments -/

variable {l : List Assignment} {g e : String}

/-- The tokens of assignments are among those that are written. -/
theorem sublist_writesOf (rule : ForegroundRule) (l : List Assignment) :
    (l.map (·.definition.token)).Sublist ((writesOf rule l).map Write.target) := by
  induction l with
  | nil => exact .slnil
  | cons a rest ih =>
    rw [writesOf_cons, surfaceWrites, List.map_append, List.map_cons, List.map_cons,
      List.cons_append]
    exact (ih.trans (List.sublist_append_right _ _)).cons_cons a.definition.token

/-- A token that is assigned once has the value of the assignment. -/
theorem lastValue_of_nodup (hnodup : (l.map (·.definition.token)).Nodup) {a : Assignment}
    (ha : a ∈ l) (before : String) : lastValue l a.definition.token before = a.value := by
  induction l generalizing before with
  | nil => cases ha
  | cons b rest ih =>
    rw [List.map_cons, List.nodup_cons] at hnodup
    rw [lastValue_cons]
    rcases List.mem_cons.1 ha with rfl | ha
    · rw [if_pos rfl, lastValue_of_not_mem hnodup.1]
    · exact ih hnodup.2 ha _

/-- The patch of assignments is that of the values that their tokens are left with. -/
theorem patchOf_eq_values (hl : ∀ a ∈ l, a.definition ∈ styled) (theme : Theme) :
    patchOf theme l = patchOf theme ((l.map (·.definition)).map fun d =>
      ⟨d, lastValue l d.token ""⟩) := by
  rw [@patchOf_settled l hl (fun token => lastValue l token "")
    (fun a ha before => lastValue_of_mem (List.mem_map_of_mem ha) _ _), settled, List.map_map]
  rfl

/-- **The entries of a patch of assignments** are those of the assigned definitions. -/
theorem get?_patchOf (hl : ∀ a ∈ l, a.definition ∈ styled)
    (hnodup : (l.map (·.definition.token)).Nodup) (v : Document) :
    get? (fieldsAt (patchOf [] l) g) e = some v ↔
      ∃ a ∈ l, a.definition.path = ⟨g, some e⟩ ∧ v = .text a.value := by
  have hds : ∀ d ∈ l.map (·.definition), d ∈ styled := List.forall_mem_map.2 hl
  rw [patchOf_eq_values hl, entry_patchOf hds fun token => lastValue l token ""]
  constructor
  · intro h
    split at h
    · rename_i d hf
      obtain ⟨a, ha, rfl⟩ := List.mem_map.1 (List.mem_of_find?_eq_some hf)
      rw [lastValue_of_nodup hnodup ha] at h
      exact ⟨a, ha, by simpa using List.find?_some hf, (Option.some.inj h).symm⟩
    · cases h
  · rintro ⟨a, ha, hpath, rfl⟩
    have hd : a.definition ∈ l.map (·.definition) := List.mem_map_of_mem ha
    split
    · rename_i d hf
      -- the definition that is found has the same place, and so the same token
      have hd' := List.mem_of_find?_eq_some hf
      have hpath' : d.path = ⟨g, some e⟩ := by simpa using List.find?_some hf
      rw [(path_eq_iff d (hds d hd') _ (hds _ hd)).1 (hpath'.trans hpath.symm),
        lastValue_of_nodup hnodup ha]
    · rename_i hf
      exact absurd hpath (by simpa using List.find?_eq_none.1 hf _ hd)

/-- A patch has sections alone, and no section without an entry. -/
theorem shaped_patchOf (hl : ∀ a ∈ l, a.definition ∈ styled) {theme : Theme}
    (hshaped : Shaped theme) (hsections : ∀ g ∈ keys theme, ∃ e, HasEntry theme g e) :
    Shaped (patchOf theme l) ∧
      ∀ g ∈ keys (patchOf theme l), ∃ e, HasEntry (patchOf theme l) g e := by
  induction l generalizing theme with
  | nil => exact ⟨hshaped, hsections⟩
  | cons a rest ih =>
    obtain ⟨g, e, hp⟩ := exists_entry (hl a List.mem_cons_self)
    rw [patchOf_cons, hp]
    refine ih (fun b hb => hl b (List.mem_cons_of_mem _ hb)) (hshaped.addToPatch g e _) ?_
    intro g' hg'
    rw [addToPatch_entry] at hg'
    rcases mem_keys_put.1 hg' with rfl | hg'
    · exact ⟨e, hasEntry_addToPatch theme g' e _⟩
    · obtain ⟨e', he'⟩ := hsections g' hg'
      exact ⟨e', he'.addToPatch g e _⟩

/-! ## The projection of changes -/

/-- A token that is the foreground of a surface. -/
def IsForeground (token : String) : Prop := ∃ d ∈ definitions.map (·.2), token ∈ d.foreground

/-- A patch that is the projection of changes: sections with entries, and for every entry a change
of a token that a definition binds to this place, which is no foreground, with the new value. -/
structure Projects (patch : Theme) (changes : List Change) : Prop where
  shaped : Shaped patch
  sections : ∀ g ∈ keys patch, g ≠ "mode" ∧ ∃ e, HasEntry patch g e
  entries : ∀ g e v, get? (fieldsAt patch g) e = some v ↔
    ∃ c ∈ changes, v = .text c.newValue ∧ ¬IsForeground c.token ∧
      ∃ d ∈ definitions.map (·.2), d.token = c.token ∧ d.path = ⟨g, some e⟩

/-- The places of the definitions that are no mode are in other sections than the mode. -/
theorem definitions_places : ∀ d ∈ definitions.map (·.2),
    (d.path.entry.isSome = true → d ∈ styled) ∧ (d ∈ styled → d.path.group ≠ "mode") := by
  decide +kernel

theorem not_isForeground {d : Definition} (hd : d ∈ styled) : ¬IsForeground d.token := by
  rintro ⟨e, he, hf⟩
  have hs := mem_styled_of_foreground e he (Option.isSome_of_mem hf)
  exact token_ne_foreground hs hf hd rfl

/-- What is asked for by the writes of assignments. -/
theorem mem_asked_writesOf {token value : String}
    (h : (token, value) ∈ (writesOf rule l).map Write.asked) :
    (∃ a ∈ l, token = a.definition.token ∧ value = a.value) ∨
      ∃ a ∈ l, token ∈ a.definition.foreground := by
  obtain ⟨w, hw, he⟩ := List.mem_map.1 h
  obtain ⟨a, ha, rfl | ⟨f, hf, v, rfl, -⟩⟩ := mem_writesOf hw
  · cases he
    exact .inl ⟨a, ha, rfl, rfl⟩
  · cases he
    exact .inr ⟨a, ha, hf⟩

theorem asked_mem_writesOf (rule : ForegroundRule) {a : Assignment} (ha : a ∈ l) :
    (a.definition.token, a.value) ∈ (writesOf rule l).map Write.asked :=
  List.mem_map.2 ⟨_, List.mem_flatMap.2 ⟨a, ha, List.mem_cons_self⟩, rfl⟩

variable {changes : List Change}

/-- What is asked for by the writes is what the changes tell. -/
theorem mem_asked_iff {writes : List Write}
    (hchanges : (changes.map fun c => (c.token, c.newValue)) = writes.map Write.asked)
    {token value : String} : (token, value) ∈ writes.map Write.asked ↔
      ∃ c ∈ changes, c.token = token ∧ c.newValue = value := by
  rw [← hchanges, List.mem_map]
  simp only [Prod.mk.injEq]

/-- The entries of a patch of assignments, read off the changes that their writes make. -/
theorem get?_patchOf_changes (hl : ∀ a ∈ l, a.definition ∈ styled)
    (hnodup : (l.map (·.definition.token)).Nodup)
    (hchanges : (changes.map fun c => (c.token, c.newValue)) = (writesOf rule l).map Write.asked)
    (g e : String) (v : Document) : get? (fieldsAt (patchOf [] l) g) e = some v ↔
      ∃ c ∈ changes, v = .text c.newValue ∧ ¬IsForeground c.token ∧
        ∃ d ∈ definitions.map (·.2), d.token = c.token ∧ d.path = ⟨g, some e⟩ := by
  rw [get?_patchOf hl hnodup]
  constructor
  · rintro ⟨a, ha, hpath, rfl⟩
    obtain ⟨c, hc, htoken, hvalue⟩ := (mem_asked_iff hchanges).1 (asked_mem_writesOf rule ha)
    refine ⟨c, hc, by rw [hvalue], ?_, a.definition, (mem_styled.1 (hl a ha)).1, htoken.symm, hpath⟩
    rw [htoken]
    exact not_isForeground (hl a ha)
  · rintro ⟨c, hc, rfl, hplain, d, hd, htoken, hpath⟩
    have hds : d ∈ styled := (definitions_places d hd).1 (by rw [hpath]; rfl)
    have hasked := (mem_asked_iff hchanges).2 ⟨c, hc, rfl, rfl⟩
    rcases mem_asked_writesOf hasked with ⟨a, ha, ht, hv⟩ | ⟨a, ha, hf⟩
    · refine ⟨a, ha, ?_, by rw [hv]⟩
      rw [← hpath]
      exact (path_eq_iff _ (hl a ha) d hds).2 (ht.symm.trans htoken.symm)
    · exact absurd ⟨a.definition, (mem_styled.1 (hl a ha)).1, hf⟩ hplain

/-- **The patch of assignments is the projection of the changes that their writes make.** -/
theorem projects_patchOf (hl : ∀ a ∈ l, a.definition ∈ styled)
    (hnodup : (l.map (·.definition.token)).Nodup)
    (hchanges : (changes.map fun c => (c.token, c.newValue)) = (writesOf rule l).map Write.asked) :
    Projects (patchOf [] l) changes := by
  obtain ⟨hshaped, hsections⟩ := shaped_patchOf hl shaped_nil (by simp [keys])
  refine ⟨hshaped, fun g hg => ⟨?_, hsections g hg⟩, get?_patchOf_changes hl hnodup hchanges⟩
  rintro rfl
  -- an entry comes from an assignment, and none has a place in that section
  obtain ⟨e, he⟩ := hsections "mode" hg
  obtain ⟨v, hv⟩ := Option.isSome_iff_exists.1 (mem_keys_iff.1 he)
  obtain ⟨a, ha, hpath, -⟩ := (get?_patchOf hl hnodup v).1 hv
  exact (definitions_places _ (mem_styled.1 (hl a ha)).1).2 (hl a ha) (by rw [hpath])

/-- **What a plan hands over is the projection of its changes**: nothing when only the mode
changes, and otherwise a patch with an entry. -/
theorem Planned.projects {plan : Plan} (h : Planned rule store plan)
    (hreply : plan.reply = .ok reply) (hnodup : (plan.writes.map Write.target).Nodup)
    (hchanges : (changes.map fun c => (c.token, c.newValue)) = plan.writes.map Write.asked) :
    ((∀ c ∈ changes, c.token = "mode") ∧ plan.patch = []) ∨
      (∃ c ∈ changes, c.token ≠ "mode") ∧ plan.patch ≠ [] ∧ Projects plan.patch changes := by
  have htokens : ∀ c ∈ changes, ∃ w ∈ plan.writes, w.asked = (c.token, c.newValue) :=
    fun c hc => List.mem_map.1 ((mem_asked_iff hchanges).2 ⟨c, hc, rfl, rfl⟩)
  cases h with
  | reply reply =>
    refine .inl ⟨fun c hc => ?_, rfl⟩
    obtain ⟨w, hw, -⟩ := htokens c hc
    cases hw
  | mode mode reply succeeds =>
    refine .inl ⟨fun c hc => ?_, rfl⟩
    obtain ⟨w, hw, he⟩ := htokens c hc
    rw [List.mem_singleton.1 hw] at he
    exact (Prod.mk.inj he).1.symm
  | assign l allowed reply succeeds =>
    have hl : ∀ a ∈ l, a.definition ∈ styled := fun a ha => (allowed a ha).styled
    cases l with
    | nil =>
      refine .inl ⟨fun c hc => ?_, rfl⟩
      obtain ⟨w, hw, -⟩ := htokens c hc
      cases hw
    | cons a rest =>
      refine .inr ⟨?_, patchOf_ne_nil (List.cons_ne_nil _ _) [],
        projects_patchOf hl ((sublist_writesOf rule _).nodup hnodup) hchanges⟩
      -- the first assignment changes its token, which is not the mode
      obtain ⟨c, hc, he, -⟩ :=
        (mem_asked_iff hchanges).1 (asked_mem_writesOf rule (l := a :: rest) List.mem_cons_self)
      refine ⟨c, hc, ?_⟩
      rw [he]
      exact token_ne_mode _ (hl a List.mem_cons_self)
  | stopped l allowed fault => cases hreply

/-! ## Commands -/

/-- A patch with an entry is handed over, under a key that is not empty. -/
theorem persist_recorder {key : String} (hkey : key ≠ "") {patch : Theme} (hpatch : patch ≠ [])
    (fails : Nat → Bool) (received : List (String × Theme)) :
    (Collaborator.recorder fails received).persist (some key) patch =
      .recorder fails (received ++ [(key, patch)]) := by
  rw [Collaborator.persist]
  simp only [hkey, decide_false, Bool.false_or, List.isEmpty_iff, hpatch, if_false]
  rfl

/-- **The patch that a command hands over is the projection of its changes**: nothing is handed
over when nothing but the mode changed, and otherwise one patch, under the key. -/
theorem patch_projects_changes (settings : Settings) (store : TokenStore) (fails : Nat → Bool)
    (received : List (String × Theme)) (request : Request) (selection : Option Selection)
    (key : String) (r : Result) (hkey : key ≠ "")
    (h : (Session.serve ⟨settings, store, .recorder fails received⟩ request selection
      (some key)).outcome = .ok r) :
    let after := (Session.serve ⟨settings, store, .recorder fails received⟩ request selection
      (some key)).session.collaborator
    ((∀ c ∈ r.changes, c.token = "mode") ∧ after = .recorder fails received) ∨
      (∃ c ∈ r.changes, c.token ≠ "mode") ∧ ∃ patch,
        after = .recorder fails (received ++ [(key, patch)]) ∧ Projects patch r.changes := by
  intro after
  have hplan := planned_planRequest settings store request selection
  rw [Session.serve_eq] at h
  obtain ⟨hreply, hchanges, hsession, -⟩ := carryOut_ok h
  have hasked := asked_performWrites store (planRequest settings store request selection).writes
  rw [← hchanges] at hasked
  have hafter : after = (Collaborator.recorder fails received).persist (some key)
      (planRequest settings store request selection).patch := by
    change (Session.serve _ request selection (some key)).session.collaborator = _
    rw [Session.serve_eq, hsession]
  rcases hplan.projects hreply (nodup_planRequest hreply) hasked with
    ⟨hmode, hnil⟩ | ⟨hchanged, hpatch, hprojects⟩
  · left
    rw [hafter, hnil, persist_nil]
    exact ⟨hmode, rfl⟩
  · right
    rw [hafter, persist_recorder hkey hpatch]
    exact ⟨hchanged, _, rfl, hprojects⟩

/-- "playful" changes the brand colour with its foreground and the corners, and hands over one
patch of two sections. -/
theorem patch_projects_playful : ∃ r patch,
    (Session.serve ⟨{}, {}, .recorder (fun _ => false) []⟩ (.text "playful") none
      (some "app")).outcome = .ok r ∧
    r.changes.map (·.token) = ["radius", "primary", "primary-foreground"] ∧
    (Session.serve ⟨{}, {}, .recorder (fun _ => false) []⟩ (.text "playful") none
      (some "app")).session.collaborator = .recorder (fun _ => false) [("app", patch)] ∧
    Projects patch r.changes := by
  obtain ⟨r, h, htokens⟩ := exists_ok_of_map (f := fun r => r.changes.map (·.token))
    (b := ["radius", "primary", "primary-foreground"])
    (o := (Session.serve ⟨{}, {}, .recorder (fun _ => false) []⟩ (.text "playful") none
      (some "app")).outcome) (by decide +kernel)
  have hradius : "radius" ∈ r.changes.map (·.token) := by
    rw [htokens]
    exact List.mem_cons_self
  obtain ⟨c, hc, ht⟩ := List.mem_map.1 hradius
  have hone := patch_projects_changes {} {} (fun _ => false) [] (.text "playful") none "app" r
    (by decide) h
  dsimp only at hone
  rcases hone with ⟨hmode, -⟩ | ⟨-, patch, hafter, hprojects⟩
  · -- the corners are not the mode
    rw [hmode c hc] at ht
    exact absurd ht (by decide)
  · rw [List.nil_append] at hafter
    exact ⟨r, patch, h, htokens, hafter, hprojects⟩

end Restyle.Interpreter
