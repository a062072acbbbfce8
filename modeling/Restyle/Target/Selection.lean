/-!
# The selection

What the user has selected, as the surroundings describe it, and the four shapes that matter.
-/

set_option autoImplicit false

namespace Restyle.Target

/-- A description of what is selected; every part may be missing. -/
structure Selection where
  kind : Option String := none
  id : Option String := none
  componentKind : Option String := none
  name : Option String := none
  deriving DecidableEq, Repr

/-- The shapes of a selection. -/
inductive SelectionShape where
  | none
  | page
  /-- A component of a kind, with its identifier. -/
  | component (kind : String) (id : String)
  | other
  deriving DecidableEq, Repr

/-- The name of a shape. -/
def SelectionShape.name : SelectionShape → String
  | .none => "none"
  | .page => "page"
  | .component _ _ => "component"
  | .other => "other"

/-- The shape of an optional selection.  Without an identifier nothing is selected, and a
component counts as one only if its kind is known to the surroundings. -/
def shapeOf : Option Selection → SelectionShape
  | .none => .none
  | .some s =>
    let id := s.id.getD ""
    let componentKind := s.componentKind.getD ""
    if id = "" then .none
    else if s.kind = some "page" then .page
    else if s.kind = some "component" && componentKind != "" then .component componentKind id
    else .other

end Restyle.Target
