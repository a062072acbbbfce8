/-!
# Entries in order

Lists of keys with values, at most one for a key when they are built with `put`.  A new key
goes to the end; a known one keeps its place.

* `get?_put` — what is found after an entry was put.
-/

set_option autoImplicit false

namespace Restyle.Assoc

variable {α : Type}

/-- The value of a key. -/
def get? (entries : List (String × α)) (key : String) : Option α := entries.lookup key

/-- Sets the value of a key, in its place if it has one and else at the end. -/
def put (key : String) (value : α) : List (String × α) → List (String × α)
  | [] => [(key, value)]
  | (k, v) :: rest => if k = key then (key, value) :: rest else (k, v) :: put key value rest

/-- Removes a key. -/
def erase (key : String) (entries : List (String × α)) : List (String × α) :=
  entries.filter fun entry => entry.1 != key

/-- The keys. -/
def keys (entries : List (String × α)) : List String := entries.map (·.1)

@[simp] theorem get?_nil (key : String) : get? ([] : List (String × α)) key = none := rfl

theorem get?_cons (k key : String) (v : α) (rest : List (String × α)) :
    get? ((k, v) :: rest) key = if key = k then some v else get? rest key := by
  by_cases h : key = k
  · subst h
    simp [get?]
  · have hb : (key == k) = false := by simpa using h
    simp [get?, List.lookup_cons, hb, h]

/-- A key that was put is found, and the others are found as before. -/
theorem get?_put (entries : List (String × α)) (key other : String) (value : α) :
    get? (put key value entries) other = if other = key then some value else get? entries other := by
  induction entries with
  | nil => simp [put, get?_cons]
  | cons entry rest ih =>
    obtain ⟨k, v⟩ := entry
    by_cases h : k = key
    · subst h
      by_cases ho : other = k <;> simp [put, get?_cons, ho]
    · simp only [put, h, if_false, get?_cons, ih]
      by_cases ho : other = k
      · subst ho; simp [h]
      · simp [ho]

end Restyle.Assoc
