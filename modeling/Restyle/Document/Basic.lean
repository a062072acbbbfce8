import Restyle.Assoc
import Restyle.Numeric.Binary64

/-!
# Documents

A document is a nested value, as settings and themes hold it.  The entries of a mapping keep
the order in which their keys first appeared.
-/

set_option autoImplicit false

namespace Restyle

open Restyle.Numeric

/-- A nested value. -/
inductive Document where
  | null
  | bool (value : Bool)
  | whole (value : Int)
  | real (value : Binary64)
  | text (value : String)
  | list (items : List Document)
  | mapping (fields : List (String × Document))

/-- The entries of a mapping. -/
abbrev Fields := List (String × Document)

instance : Inhabited Document := ⟨.null⟩

/-- The kinds of documents. -/
inductive DocumentKind where
  | null
  | bool
  | whole
  | real
  | text
  | list
  | mapping
  deriving DecidableEq, Repr

/-- The name of a kind in reports. -/
def DocumentKind.name : DocumentKind → String
  | .null => "NoneType"
  | .bool => "bool"
  | .whole => "int"
  | .real => "float"
  | .text => "str"
  | .list => "list"
  | .mapping => "dict"

/-- The kind of a document. -/
def Document.kind : Document → DocumentKind
  | .null => .null
  | .bool _ => .bool
  | .whole _ => .whole
  | .real _ => .real
  | .text _ => .text
  | .list _ => .list
  | .mapping _ => .mapping

/-- Whether a document counts as empty: null, false, zero, or without content. -/
def Document.isEmpty : Document → Bool
  | .null => true
  | .bool b => !b
  | .whole n => n == 0
  | .real x => x.toRat? == some 0
  | .text s => s == ""
  | .list items => items.isEmpty
  | .mapping fields => fields.isEmpty

end Restyle
