import Restyle.Proofs.Document.Merge
import Restyle.Proofs.Interpreter.Assignment

/-!
# Patches of assignments

A patch collects the values of assignments at the places of their definitions.  Merging it into
a theme gives what the assignments one after another would give, so that it does not matter how
they are split into patches; and of several assignments to one token only the last value counts.

* `mergeFields_patchOf` — merging a patch is assigning value by value.
* `patchOf_settled` — every assignment may as well be made with the last value of its token.
-/

set_option autoImplicit false

namespace Restyle.Interpreter

open Restyle.Assoc Restyle.Document Restyle.Sync Restyle.Target

variable {theme : Theme} {g e : String}

/-! ## One entry -/

/-- The entries of a section. -/
def fieldsAt (theme : Theme) (group : String) : Fields := fieldsOf (get? theme group)

theorem addToPatch_entry (theme : Theme) (g e value : String) :
    addToPatch theme ⟨g, some e⟩ value =
      put g (.mapping (put e (.text value) (fieldsAt theme g))) theme := rfl

theorem fieldsAt_put (theme : Theme) (g g' : String) (fields : Fields) :
    fieldsAt (put g (.mapping fields) theme) g' = if g' = g then fields else fieldsAt theme g' := by
  rw [fieldsAt, get?_put]
  split
  · rfl
  · rfl

theorem entry_addToPatch (theme : Theme) (g g' e e' value : String) :
    get? (fieldsAt (addToPatch theme ⟨g', some e'⟩ value) g) e =
      if g = g' ∧ e = e' then some (.text value) else get? (fieldsAt theme g) e := by
  rw [addToPatch_entry, fieldsAt_put]
  by_cases hg : g = g'
  · subst hg
    rw [if_pos rfl, get?_put]
    by_cases he : e = e'
    · rw [if_pos he, if_pos ⟨rfl, he⟩]
    · rw [if_neg he, if_neg fun h => he h.2]
  · rw [if_neg hg, if_neg fun h => hg h.1]

/-- Whether a theme has an entry at a place. -/
def HasEntry (theme : Theme) (g e : String) : Prop := e ∈ keys (fieldsAt theme g)

theorem HasEntry.group (h : HasEntry theme g e) : g ∈ keys theme := by
  by_contra hg
  rw [HasEntry, fieldsAt, get?_of_not_mem hg] at h
  cases h

theorem hasEntry_addToPatch (theme : Theme) (g e value : String) :
    HasEntry (addToPatch theme ⟨g, some e⟩ value) g e := by
  rw [HasEntry, addToPatch_entry, fieldsAt_put, if_pos rfl]
  exact mem_keys_put.2 (.inl rfl)

theorem HasEntry.addToPatch (h : HasEntry theme g e) (g' e' value : String) :
    HasEntry (addToPatch theme ⟨g', some e'⟩ value) g e := by
  rw [HasEntry, addToPatch_entry, fieldsAt_put]
  split
  · rename_i hg
    subst hg
    exact mem_keys_put.2 (.inr h)
  · exact h

/-- The second value counts. -/
theorem addToPatch_addToPatch (theme : Theme) (g e first second : String) :
    addToPatch (addToPatch theme ⟨g, some e⟩ first) ⟨g, some e⟩ second =
      addToPatch theme ⟨g, some e⟩ second := by
  rw [addToPatch_entry, addToPatch_entry, fieldsAt_put, if_pos rfl, put_put, put_put,
    addToPatch_entry]

/-- An entry that is there may be set before or after another one. -/
theorem addToPatch_comm (h : HasEntry theme g e) {g' e' : String}
    (hne : (⟨g, some e⟩ : ThemePath) ≠ ⟨g', some e'⟩) (v w : String) :
    addToPatch (addToPatch theme ⟨g', some e'⟩ w) ⟨g, some e⟩ v =
      addToPatch (addToPatch theme ⟨g, some e⟩ v) ⟨g', some e'⟩ w := by
  rw [addToPatch_entry, addToPatch_entry, addToPatch_entry, addToPatch_entry, fieldsAt_put,
    fieldsAt_put]
  by_cases hg : g = g'
  · subst hg
    have he : e ≠ e' := by
      rintro rfl
      exact hne rfl
    rw [if_pos rfl, if_pos rfl, put_put, put_put, put_comm he h]
  · rw [if_neg hg, if_neg (Ne.symm hg), put_comm hg h.group]

/-! ## Merging a patch -/

/-- A patch: sections, each a mapping, none twice and no entry twice. -/
structure Shaped (theme : Theme) : Prop where
  groups : (keys theme).Nodup
  sections : ∀ g d, get? theme g = some d → ∃ fields, d = .mapping fields ∧ (keys fields).Nodup

theorem shaped_nil : Shaped [] where
  groups := List.nodup_nil
  sections := by
    intro g d h
    cases h

theorem Shaped.nodup_fieldsAt (h : Shaped theme) (g : String) :
    (keys (fieldsAt theme g)).Nodup := by
  rw [fieldsAt]
  cases hd : get? theme g with
  | none => exact List.nodup_nil
  | some d =>
    obtain ⟨fields, rfl, hn⟩ := h.sections g d hd
    exact hn

theorem Shaped.addToPatch (h : Shaped theme) (g e value : String) :
    Shaped (addToPatch theme ⟨g, some e⟩ value) where
  groups := nodup_keys_put h.groups _ _
  sections := by
    intro g' d hd
    rw [addToPatch_entry, get?_put] at hd
    split at hd
    · cases hd
      exact ⟨_, rfl, nodup_keys_put (h.nodup_fieldsAt g) _ _⟩
    · exact h.sections g' d hd

theorem fieldsAt_mergeFields (h : Shaped theme) (base : Theme) (g : String) :
    fieldsAt (mergeFields base theme) g = mergeFields (fieldsAt base g) (fieldsAt theme g) := by
  unfold fieldsAt
  rw [get?_mergeFields h.groups]
  cases hd : get? theme g with
  | none =>
    dsimp only
    rw [fieldsOf.eq_def none, mergeFields_nil]
  | some d =>
    obtain ⟨fields, rfl, hn⟩ := h.sections g d hd
    dsimp only
    rw [mergeValue_mapping hn]
    rfl

/-- A value of the patch may be merged last. -/
theorem mergeFields_addToPatch (h : Shaped theme) (base : Theme) (g e value : String) :
    mergeFields base (addToPatch theme ⟨g, some e⟩ value) =
      addToPatch (mergeFields base theme) ⟨g, some e⟩ value := by
  rw [addToPatch_entry, mergeFields_put h.groups,
    mergeValue_mapping (nodup_keys_put (h.nodup_fieldsAt g) _ _),
    mergeFields_put (h.nodup_fieldsAt g), mergeValue_text, addToPatch_entry,
    fieldsAt_mergeFields h]
  rfl

theorem exists_entry {d : Definition} (hd : d ∈ styled) : ∃ g e, d.path = ⟨g, some e⟩ := by
  have hp := path_of_mem d hd
  obtain ⟨e, he⟩ := Option.isSome_iff_exists.1 hp
  exact ⟨d.path.group, e, by rw [← he]⟩

variable {l : List Assignment}

theorem patchOf_cons (theme : Theme) (a : Assignment) (l : List Assignment) :
    patchOf theme (a :: l) = patchOf (addToPatch theme a.definition.path a.value) l := rfl

theorem mergeFields_patchOf_shaped (h : Shaped theme) (hl : ∀ a ∈ l, a.definition ∈ styled)
    (base : Theme) : mergeFields base (patchOf theme l) = patchOf (mergeFields base theme) l := by
  induction l generalizing theme with
  | nil => rfl
  | cons a rest ih =>
    obtain ⟨g, e, hp⟩ := exists_entry (hl a List.mem_cons_self)
    rw [patchOf_cons, patchOf_cons, hp, ← mergeFields_addToPatch h]
    exact ih (h.addToPatch g e _) fun b hb => hl b (List.mem_cons_of_mem _ hb)

/-- **Merging a patch is assigning value by value.** -/
theorem mergeFields_patchOf (hl : ∀ a ∈ l, a.definition ∈ styled) (base : Theme) :
    mergeFields base (patchOf [] l) = patchOf base l := by
  rw [mergeFields_patchOf_shaped shaped_nil hl, mergeFields_nil]

theorem patchOf_ne_nil (h : l ≠ []) (theme : Theme) : patchOf theme l ≠ [] := by
  obtain ⟨m, a, rfl⟩ : ∃ m a, l = m ++ [a] := ⟨_, _, (List.dropLast_append_getLast h).symm⟩
  rw [patchOf_append, patchOf_singleton]
  unfold addToPatch
  split
  · exact put_ne_nil _ _ _
  · exact put_ne_nil _ _ _

/-! ## The last value of a token -/

/-- The last value that a token is assigned, or the one from before. -/
def lastValue (l : List Assignment) (token before : String) : String :=
  l.foldl (fun v a => if a.definition.token = token then a.value else v) before

theorem lastValue_cons (a : Assignment) (l : List Assignment) (token before : String) :
    lastValue (a :: l) token before =
      lastValue l token (if a.definition.token = token then a.value else before) := rfl

theorem lastValue_append (l m : List Assignment) (token before : String) :
    lastValue (l ++ m) token before = lastValue m token (lastValue l token before) := by
  rw [lastValue, List.foldl_append]
  rfl

/-- Once a token is assigned, its value from before does not matter. -/
theorem lastValue_of_mem {token : String} (h : token ∈ l.map (·.definition.token))
    (before other : String) : lastValue l token before = lastValue l token other := by
  induction l generalizing before other with
  | nil => cases h
  | cons a rest ih =>
    rw [lastValue_cons, lastValue_cons]
    rw [List.map_cons, List.mem_cons] at h
    split
    · rfl
    · rename_i hne
      exact ih (h.resolve_left (Ne.symm hne)) before other

theorem lastValue_of_not_mem {token : String} (h : token ∉ l.map (·.definition.token))
    (before : String) : lastValue l token before = before := by
  induction l with
  | nil => rfl
  | cons a rest ih =>
    rw [List.map_cons, List.mem_cons, not_or] at h
    rw [lastValue_cons, if_neg (Ne.symm h.1), ih h.2]

/-- An entry that is there and is assigned later on may be set to anything before. -/
theorem patchOf_addToPatch (hl : ∀ a ∈ l, a.definition ∈ styled) {d : Definition}
    (hd : d ∈ styled) (hp : d.path = ⟨g, some e⟩) (h : d.token ∈ l.map (·.definition.token))
    (ht : HasEntry theme g e) (value : String) :
    patchOf (addToPatch theme d.path value) l = patchOf theme l := by
  induction l generalizing theme with
  | nil => cases h
  | cons a rest ih =>
    have ha := hl a List.mem_cons_self
    obtain ⟨g', e', hp'⟩ := exists_entry ha
    rw [patchOf_cons, patchOf_cons, hp, hp']
    by_cases hsame : d.token = a.definition.token
    · have hpath := (path_eq_iff d hd _ ha).2 hsame
      rw [hp, hp'] at hpath
      rw [← hpath, addToPatch_addToPatch]
    · have hpath : (⟨g, some e⟩ : ThemePath) ≠ ⟨g', some e'⟩ := by
        rw [← hp, ← hp']
        exact fun heq => hsame ((path_eq_iff d hd _ ha).1 heq)
      rw [← addToPatch_comm ht hpath, ← hp]
      rw [List.map_cons, List.mem_cons] at h
      exact ih (fun b hb => hl b (List.mem_cons_of_mem _ hb)) (h.resolve_left hsame)
        (ht.addToPatch g' e' _)

/-- A value that is assigned anew later on may be any other one. -/
theorem patchOf_overwritten (hl : ∀ a ∈ l, a.definition ∈ styled) {d : Definition}
    (hd : d ∈ styled) (h : d.token ∈ l.map (·.definition.token)) (v w : String) :
    patchOf (addToPatch theme d.path v) l = patchOf (addToPatch theme d.path w) l := by
  obtain ⟨g, e, hp⟩ := exists_entry hd
  have ht : HasEntry (addToPatch theme d.path v) g e := by
    rw [hp]
    exact hasEntry_addToPatch theme g e v
  rw [← patchOf_addToPatch hl hd hp h ht w, hp, addToPatch_addToPatch]

/-- Assignments with the last value of every token. -/
def settled (l : List Assignment) (value : String → String) : List Assignment :=
  l.map fun a => { a with value := value a.definition.token }

/-- **Every assignment may as well be made with the last value of its token.** -/
theorem patchOf_settled (hl : ∀ a ∈ l, a.definition ∈ styled) {value : String → String}
    (hv : ∀ a ∈ l, ∀ before, value a.definition.token = lastValue l a.definition.token before)
    (theme : Theme) : patchOf theme l = patchOf theme (settled l value) := by
  induction l generalizing theme with
  | nil => rfl
  | cons a rest ih =>
    have ha := hl a List.mem_cons_self
    have hrest : ∀ b ∈ rest, b.definition ∈ styled := fun b hb => hl b (List.mem_cons_of_mem _ hb)
    have hvrest : ∀ b ∈ rest, ∀ before,
        value b.definition.token = lastValue rest b.definition.token before := by
      intro b hb before
      rw [hv b (List.mem_cons_of_mem _ hb) before, lastValue_cons]
      exact lastValue_of_mem (List.mem_map_of_mem hb) _ _
    have hva := hv a List.mem_cons_self ""
    rw [lastValue_cons, if_pos rfl] at hva
    rw [settled, List.map_cons, patchOf_cons, patchOf_cons]
    dsimp only
    rw [← settled, ← ih hrest hvrest]
    by_cases hm : a.definition.token ∈ rest.map (·.definition.token)
    · exact patchOf_overwritten hrest ha hm _ _
    · rw [hva, lastValue_of_not_mem hm]

end Restyle.Interpreter
