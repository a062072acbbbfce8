/-!
# Look-ups that can miss

The library's operations are total: an entry that is not there is none, and a quotient by zero is
zero.  Here every look-up that nobody guards stops the computation when it misses, so that a
computation that comes to a value has missed nothing.

* `Check` — a computation that stops at the first miss.
* `entry`, `item`, `position`, `quotient` — what can miss.
-/

set_option autoImplicit false

namespace Restyle.Checked

/-- Why there is nothing to go on with. -/
inductive Miss where
  /-- A table has no entry of this key. -/
  | entry (key : String)
  /-- A list ends before this place. -/
  | item (place : Nat)
  /-- A list does not have this text. -/
  | position (text : String)
  /-- A number was to be divided by zero. -/
  | divisor
  deriving DecidableEq, Repr

/-- A computation that stops at the first miss. -/
abbrev Check (α : Type) := Except Miss α

variable {α β : Type}

/-- The entry of a key. -/
def entry (table : List (String × α)) (key : String) : Check α :=
  match table.lookup key with
  | some value => .ok value
  | none => .error (.entry key)

/-- The item at a place. -/
def item (items : List α) (place : Nat) : Check α :=
  match items[place]? with
  | some value => .ok value
  | none => .error (.item place)

/-- The first place of a text. -/
def position (texts : List String) (text : String) : Check Nat :=
  if text ∈ texts then .ok (texts.idxOf text) else .error (.position text)

/-- A quotient. -/
def quotient (x y : Rat) : Check Rat := if y = 0 then .error .divisor else .ok (x / y)

/-! ## What does not miss -/

theorem ok_bind (value : α) (next : α → Check β) : (Except.ok value >>= next) = next value := rfl

theorem pure_eq (value : α) : (pure value : Check α) = .ok value := rfl

theorem entry_ok {table : List (String × α)} {key : String} {value : α}
    (h : table.lookup key = some value) : entry table key = .ok value := by
  rw [entry, h]

theorem item_ok {items : List α} {place : Nat} {value : α} (h : items[place]? = some value) :
    item items place = .ok value := by
  rw [item, h]

theorem position_ok {texts : List String} {text : String} (h : text ∈ texts) :
    position texts text = .ok (texts.idxOf text) := if_pos h

theorem quotient_ok {y : Rat} (h : y ≠ 0) (x : Rat) : quotient x y = .ok (x / y) := if_neg h

/-- A list is gone through without a miss when each of its items is. -/
theorem mapM_ok {f : α → Check β} {g : α → β} (h : ∀ x, f x = .ok (g x)) (items : List α) :
    items.mapM f = .ok (items.map g) := by
  induction items with
  | nil => rfl
  | cons x rest ih => rw [List.mapM_cons, h, ok_bind, ih, ok_bind, pure_eq, List.map_cons]

end Restyle.Checked
