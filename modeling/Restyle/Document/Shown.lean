import Restyle.Document.Basic
import Restyle.Numeric.Decimal
import Restyle.Text.Quoted

/-!
# Documents as text

The text of a document where a text is asked for: a text stands for itself, and inside a list
or a mapping it is quoted.
-/

set_option autoImplicit false

namespace Restyle.Document

open Restyle.Numeric Restyle.Text

mutual

/-- A document inside another one. -/
def inner : Document → String
  | .null => "None"
  | .bool b => if b then "True" else "False"
  | .whole n => toString n
  | .real x => shortest x
  | .text s => quoted s
  | .list items => "[" ++ String.intercalate ", " (innerItems items) ++ "]"
  | .mapping fields => "\x7b" ++ String.intercalate ", " (innerFields fields) ++ "\x7d"

/-- The items of a list. -/
def innerItems : List Document → List String
  | [] => []
  | d :: rest => inner d :: innerItems rest

/-- The entries of a mapping. -/
def innerFields : List (String × Document) → List String
  | [] => []
  | entry :: rest => innerEntry entry :: innerFields rest

/-- An entry of a mapping. -/
def innerEntry : String × Document → String
  | (key, value) => quoted key ++ ": " ++ inner value

end

/-- The text of a document. -/
def shown : Document → String
  | .text s => s
  | d => inner d

end Restyle.Document
