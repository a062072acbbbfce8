import Restyle.Document.Merge
import Restyle.Proofs.Assoc

/-!
# Laws of merging

Merging an update entry by entry looks up and sets each key once, as long as no key stands in
the update twice.  An entry that is put into the update may then as well be merged last.

* `get?_mergeFields` — what is found after a merge.
* `mergeFields_put` — an entry of the update may be merged last.
* `mergeFields_append` — an update of new keys goes to the end.
-/

set_option autoImplicit false

namespace Restyle.Document

open Restyle.Assoc

variable {base update : Fields} {key : String}

theorem mergeFields_cons (base : Fields) (k : String) (d : Document) (rest : Fields) :
    mergeFields base ((k, d) :: rest) =
      mergeFields (put k (mergeValue (get? base k) d) base) rest := by
  rw [mergeFields, mergeEntry]

theorem mergeFields_nil (base : Fields) : mergeFields base [] = base := by
  rw [mergeFields]

theorem mergeValue_text (old : Option Document) (s : String) :
    mergeValue old (.text s) = .text s := by
  rw [mergeValue]
  intro update
  simp

theorem mergeValue_none (d : Document) : mergeValue none d = d := by
  cases d <;> rw [mergeValue] <;> simp

/-- What is found after a merge. -/
theorem get?_mergeFields (h : (keys update).Nodup) (base : Fields) (key : String) :
    get? (mergeFields base update) key =
      match get? update key with
      | some d => some (mergeValue (get? base key) d)
      | none => get? base key := by
  induction update generalizing base with
  | nil =>
    rw [mergeFields_nil]
    rfl
  | cons entry rest ih =>
    obtain ⟨k, d⟩ := entry
    rw [keys_cons, List.nodup_cons] at h
    rw [mergeFields_cons, ih h.2, get?_cons, get?_put]
    by_cases hk : key = k
    · subst hk
      rw [if_pos rfl, if_pos rfl, get?_of_not_mem h.1]
    · rw [if_neg hk, if_neg hk]

/-- A key that the update does not have may be set before or after. -/
theorem put_mergeFields (hb : key ∈ keys base) (h : key ∉ keys update) (d : Document) :
    put key d (mergeFields base update) = mergeFields (put key d base) update := by
  induction update generalizing base with
  | nil => rw [mergeFields_nil, mergeFields_nil]
  | cons entry rest ih =>
    obtain ⟨k, e⟩ := entry
    rw [keys_cons, List.mem_cons, not_or] at h
    have hg : get? (put key d base) k = get? base k := by
      rw [get?_put, if_neg (Ne.symm h.1)]
    rw [mergeFields_cons, mergeFields_cons, hg, ih (mem_keys_put.2 (.inr hb)) h.2,
      put_comm h.1 hb]

/-- An entry of the update may be merged last. -/
theorem mergeFields_put (h : (keys update).Nodup) (base : Fields) (key : String) (d : Document) :
    mergeFields base (put key d update) =
      put key (mergeValue (get? base key) d) (mergeFields base update) := by
  induction update generalizing base with
  | nil => rw [put, mergeFields_cons, mergeFields_nil, mergeFields_nil]
  | cons entry rest ih =>
    obtain ⟨k, e⟩ := entry
    rw [keys_cons, List.nodup_cons] at h
    by_cases hk : k = key
    · subst hk
      rw [put, if_pos rfl, mergeFields_cons, mergeFields_cons,
        put_mergeFields (mem_keys_put.2 (.inl rfl)) h.1, put_put]
    · have hg : get? (put k (mergeValue (get? base k) e) base) key = get? base key := by
        rw [get?_put, if_neg (Ne.symm hk)]
      rw [put, if_neg hk, mergeFields_cons, mergeFields_cons, ih h.2, hg]

/-- An update of new keys goes to the end. -/
theorem mergeFields_append (h : (keys (base ++ update)).Nodup) :
    mergeFields base update = base ++ update := by
  induction update generalizing base with
  | nil => rw [mergeFields_nil, List.append_nil]
  | cons entry rest ih =>
    obtain ⟨k, d⟩ := entry
    have hk : k ∉ keys base := by
      rw [keys, List.map_append, List.nodup_append] at h
      intro hk
      exact h.2.2 k hk k List.mem_cons_self rfl
    rw [mergeFields_cons, get?_of_not_mem hk, put_of_not_mem hk, mergeValue_none,
      ih (by simpa using h), List.append_assoc]
    rfl

/-- Merging into nothing gives the update. -/
theorem mergeFields_nil_left (h : (keys update).Nodup) : mergeFields [] update = update :=
  mergeFields_append h

/-! ## Mappings in mappings -/

/-- The entries of a value that is a mapping; none for any other one. -/
def fieldsOf : Option Document → Fields
  | some (.mapping fields) => fields
  | _ => []

/-- A mapping of an update is merged into the entries that were there. -/
theorem mergeValue_mapping (h : (keys update).Nodup) (old : Option Document) :
    mergeValue old (.mapping update) = .mapping (mergeFields (fieldsOf old) update) := by
  unfold mergeValue
  split
  · rfl
  · rename_i hne
    have hnone : fieldsOf old = [] := by
      unfold fieldsOf
      split
      · exact absurd rfl (hne _)
      · rfl
    rw [hnone, mergeFields_nil_left h]

end Restyle.Document
