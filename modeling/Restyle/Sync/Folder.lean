import Restyle.Document.Merge
import Restyle.Text.WordChar

/-!
# Theme files

Themes are kept in files, one for a key.  A file's name is the key with every character that
is not alphanumeric, a hyphen or an underscore replaced by an underscore, so that different
keys may share a file.  A write merges a patch into what the file holds.
-/

set_option autoImplicit false

namespace Restyle.Sync

open Restyle.Text

/-- A theme, or a part of one. -/
abbrev Theme := Fields

/-- A character of a key as it stands in a file's name. -/
def safeChar (c : Char) : Char :=
  if isAlphanumeric c || c == '-' || c == '_' then c else '_'

/-- The name of the file that keeps the theme of a key. -/
def fileName (key : String) : String := String.ofList (key.toList.map safeChar) ++ ".yaml"

/-- Theme files by name. -/
structure Folder where
  files : List (String × Theme) := []

namespace Folder

/-- The theme of a key; empty when no file was written. -/
def load (folder : Folder) (key : String) : Theme :=
  (Assoc.get? folder.files (fileName key)).getD []

/-- Merges a patch into the file of a key. -/
def write (folder : Folder) (key : String) (patch : Theme) : Folder :=
  { files := Assoc.put (fileName key) (Document.mergeFields (folder.load key) patch) folder.files }

end Folder

end Restyle.Sync
