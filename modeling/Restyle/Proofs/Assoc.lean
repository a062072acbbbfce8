import Restyle.Assoc

/-!
# Laws of entries in order

An entry that is put twice holds the second value, and an entry that is there already may be put
before or after another one.

* `put_of_get?`, `put_put`, `put_comm` — puts that change nothing, and the order of two.
* `keys_put_of_mem`, `put_of_not_mem` — the keys after a put.
* `get?_erase`, `mem_keys_erase` — what is left after a key was removed.
-/

set_option autoImplicit false

namespace Restyle.Assoc

variable {α : Type} {entries : List (String × α)} {key other : String} {value : α}

theorem keys_cons (entry : String × α) (rest : List (String × α)) :
    keys (entry :: rest) = entry.1 :: keys rest := rfl

/-- A key that is there keeps its place. -/
theorem keys_put_of_mem (h : key ∈ keys entries) (value : α) :
    keys (put key value entries) = keys entries := by
  induction entries with
  | nil => cases h
  | cons entry rest ih =>
    obtain ⟨k, v⟩ := entry
    by_cases hk : k = key
    · subst hk
      simp [put, keys_cons]
    · rw [keys_cons, List.mem_cons] at h
      simp only [put, if_neg hk, keys_cons]
      rw [ih (h.resolve_left fun he => hk he.symm)]

/-- A new key goes to the end. -/
theorem put_of_not_mem (h : key ∉ keys entries) (value : α) :
    put key value entries = entries ++ [(key, value)] := by
  induction entries with
  | nil => rfl
  | cons entry rest ih =>
    obtain ⟨k, v⟩ := entry
    rw [keys_cons, List.mem_cons, not_or] at h
    simp only [put, if_neg (Ne.symm h.1), List.cons_append]
    rw [ih h.2]

theorem put_ne_nil (key : String) (value : α) (entries : List (String × α)) :
    put key value entries ≠ [] := by
  cases entries with
  | nil => simp [put]
  | cons entry rest =>
    rw [put]
    split <;> simp

theorem get?_of_not_mem (h : key ∉ keys entries) : get? entries key = none := by
  rw [get?, List.lookup_eq_none_iff]
  intro entry he
  rw [bne_iff_ne]
  rintro rfl
  exact h (List.mem_map_of_mem he)

theorem mem_keys_put :
    other ∈ keys (put key value entries) ↔ other = key ∨ other ∈ keys entries := by
  by_cases h : key ∈ keys entries
  · rw [keys_put_of_mem h]
    constructor
    · exact .inr
    · rintro (rfl | ho)
      · exact h
      · exact ho
  · rw [put_of_not_mem h, keys, List.map_append, List.mem_append]
    simp [keys, or_comm]

theorem nodup_keys_put (h : (keys entries).Nodup) (key : String) (value : α) :
    (keys (put key value entries)).Nodup := by
  by_cases hk : key ∈ keys entries
  · rwa [keys_put_of_mem hk]
  · rw [put_of_not_mem hk, keys, List.map_append, List.nodup_append]
    refine ⟨h, by simp, ?_⟩
    intro a ha b hb
    obtain rfl : b = key := by simpa using hb
    rintro rfl
    exact hk ha

/-- A value that is there already may be put again. -/
theorem put_of_get? (h : get? entries key = some value) : put key value entries = entries := by
  induction entries with
  | nil => cases h
  | cons entry rest ih =>
    obtain ⟨k, v⟩ := entry
    rw [get?_cons] at h
    rw [put]
    by_cases hk : k = key
    · rw [if_pos hk.symm, Option.some_inj] at h
      rw [if_pos hk, hk, h]
    · rw [if_neg (Ne.symm hk)] at h
      rw [if_neg hk, ih h]

/-- The second value counts. -/
theorem put_put (first second : α) :
    put key second (put key first entries) = put key second entries := by
  induction entries with
  | nil => simp [put]
  | cons entry rest ih =>
    obtain ⟨k, v⟩ := entry
    by_cases hk : k = key
    · simp [put, hk]
    · simp [put, hk, ih]

/-- A key that is there may be put before or after another one. -/
theorem put_comm (hne : key ≠ other) (h : key ∈ keys entries) (v w : α) :
    put key v (put other w entries) = put other w (put key v entries) := by
  induction entries with
  | nil => cases h
  | cons entry rest ih =>
    obtain ⟨k, u⟩ := entry
    rw [keys_cons, List.mem_cons] at h
    by_cases hk : k = key
    · subst hk
      simp [put, hne]
    · have hr := ih (h.resolve_left fun he => hk he.symm)
      by_cases ho : k = other
      · subst ho
        simp [put, hk]
      · simp [put, hk, ho, hr]

/-! ## Removing a key -/

theorem mem_keys_iff : key ∈ keys entries ↔ (get? entries key).isSome = true := by
  induction entries with
  | nil => simp [keys]
  | cons entry rest ih =>
    obtain ⟨k, v⟩ := entry
    rw [keys_cons, List.mem_cons, get?_cons]
    by_cases hk : key = k
    · simp [hk]
    · simp [hk, ih]

theorem get?_erase (entries : List (String × α)) (key other : String) :
    get? (erase key entries) other = if other = key then none else get? entries other := by
  induction entries with
  | nil => simp [erase]
  | cons entry rest ih =>
    obtain ⟨k, v⟩ := entry
    simp only [erase] at ih
    by_cases hk : k = key
    · subst hk
      simp only [erase, List.filter_cons, bne_self_eq_false, Bool.false_eq_true, if_false, ih,
        get?_cons]
      by_cases ho : other = k <;> simp [ho]
    · have hb : (k != key) = true := by simpa using hk
      simp only [erase, List.filter_cons, hb, if_true, get?_cons, ih]
      by_cases ho : other = k
      · subst ho
        simp [hk]
      · simp [ho]

theorem mem_keys_erase : other ∈ keys (erase key entries) ↔ other ≠ key ∧ other ∈ keys entries := by
  rw [mem_keys_iff, mem_keys_iff, get?_erase]
  by_cases h : other = key <;> simp [h]

theorem nodup_keys_erase (h : (keys entries).Nodup) (key : String) :
    (keys (erase key entries)).Nodup :=
  List.Nodup.sublist (List.filter_sublist.map _) h

end Restyle.Assoc
