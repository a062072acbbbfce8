import Restyle.Text.Blank
import Restyle.Text.Case

/-!
# Word tables

A table maps words and phrases to names, in a fixed order.  Look-ups put letter case and
surrounding white space aside.
-/

set_option autoImplicit false

namespace Restyle.Vocabulary

open Restyle.Text

/-- Words and phrases with what they stand for. -/
abbrev Table := List (String × String)

/-- The words of a table, in order. -/
def Table.keys (t : Table) : List String := t.map (·.1)

/-- Whether a table has a word, as it is written. -/
def Table.has (t : Table) (word : String) : Bool := (t.lookup word).isSome

/-- The form in which tables are searched: lower case, trimmed. -/
def tableKey (text : String) : String := trim (lower text)

/-- What a text stands for in a table. -/
def Table.meaning? (t : Table) (text : String) : Option String := t.lookup (tableKey text)

end Restyle.Vocabulary
