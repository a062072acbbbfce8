import Restyle.Document.Basic
import Restyle.Numeric.Decimal
import Restyle.Numeric.Numeral

/-!
# Files with sections

Settings and theme files hold a mapping of two levels, one entry a line:

    matching:
      tolerance: LENIENT
    mode: "dark"

A line that is not indented and ends after the colon opens a section, and the indented lines
after it are the section's entries.  Texts may stand between double quotes; a number sign that
begins a line or follows a space starts a comment.  Lists, and mappings below the second level,
have no place in these files.

* `Sections.print` — the text of a file.
* `Sections.read` — the entries of a file.
* `untilQuote?_flatMap_escape` — a text is read back from between its quotes.
-/

set_option autoImplicit false

namespace Restyle.Sections

open Restyle.Numeric Restyle.Text

/-! ## Texts between quotes -/

/-- A character between quotes. -/
def escape (c : Char) : List Char :=
  if c == '"' || c == '\\' then ['\\', c]
  else if c == '\n' then ['\\', 'n']
  else [c]

/-- A text between quotes. -/
def enclose (s : String) : String :=
  String.ofList ('"' :: s.toList.flatMap escape ++ ['"'])

/-- The text up to a closing quote, and what follows the quote. -/
def untilQuote? : List Char → Option (List Char × List Char)
  | [] => none
  | '"' :: rest => some ([], rest)
  | '\\' :: c :: rest =>
    (untilQuote? rest).map fun (s, after) => ((if c == 'n' then '\n' else c) :: s, after)
  | c :: rest => (untilQuote? rest).map fun (s, after) => (c :: s, after)

/-- One escaped character is read back, whatever follows. -/
theorem untilQuote?_escape_append (c : Char) (rest : List Char) :
    untilQuote? (escape c ++ rest) = (untilQuote? rest).map fun (s, after) => (c :: s, after) := by
  unfold escape
  split
  · rename_i h
    have hn : c ≠ 'n' := by rintro rfl; simp at h
    simp [untilQuote?, hn]
  · rename_i hq
    split
    · rename_i h
      simp [untilQuote?, eq_of_beq h]
    · simp only [Bool.or_eq_true, beq_iff_eq, not_or] at hq
      simp [untilQuote?, hq]

/-- What is written between quotes is read back. -/
theorem untilQuote?_flatMap_escape (cs rest : List Char) :
    untilQuote? (cs.flatMap escape ++ '"' :: rest) = some (cs, rest) := by
  induction cs with
  | nil => simp [untilQuote?]
  | cons c cs ih =>
    rw [List.flatMap_cons, List.append_assoc, untilQuote?_escape_append, ih]
    rfl

/-! ## Printing -/

/-- A value as it stands on a line; a list or a mapping has no such form. -/
def valueText? : Document → Option String
  | .null => some "null"
  | .bool b => some (if b then "true" else "false")
  | .whole n => some (toString n)
  | .real x => some (shortest x)
  | .text s => some (enclose s)
  | .list _ => none
  | .mapping _ => none

/-- The line of an entry. -/
def entryLine? (entry : String × Document) : Option String :=
  (valueText? entry.2).map fun value => enclose entry.1 ++ ": " ++ value

/-- The lines of an entry, or of a section with its entries. -/
def entryLines (entry : String × Document) : List String :=
  match entry.2 with
  | .mapping fields =>
    (enclose entry.1 ++ ":") :: (fields.filterMap entryLine?).map ("  " ++ ·)
  | _ => (entryLine? entry).toList

/-- The text of a file. -/
def print (fields : Fields) : String :=
  String.join ((fields.flatMap entryLines).map (· ++ "\n"))

/-! ## Reading -/

/-- A text without a comment. -/
def dropComment (afterBlank : Bool) : List Char → List Char
  | [] => []
  | c :: rest => if c == '#' && afterBlank then [] else c :: dropComment (isBlank c) rest

/-- The value of a text without quotes. -/
def plainValue (cs : List Char) : Document :=
  let s := String.ofList (trimChars (dropComment true cs))
  if s = "" || s = "null" || s = "~" then .null
  else if s = "true" then .bool true
  else if s = "false" then .bool false
  else match wholeNumber? s with
    | some n => .whole n
    | none =>
      match if s.toList.contains '.' then decimalNumber? s else none with
      | some x => .real x
      | none => .text s

/-- The value of the text after a colon. -/
def readValue (cs : List Char) : Document :=
  match cs.dropWhile isBlank with
  | '"' :: rest => match untilQuote? rest with
    | some (s, _) => .text (String.ofList s)
    | none => plainValue cs
  | _ => plainValue cs

/-- The key at the front of a line without indentation, and what follows the colon. -/
def readKey? (cs : List Char) : Option (String × List Char) :=
  let (key, rest) := match cs with
    | '"' :: rest => (untilQuote? rest).getD ([], [])
    | _ => (dropComment true cs).span (· != ':')
  match rest with
  | ':' :: value => some (String.ofList (trimChars key), value)
  | _ => none

/-- A line that holds an entry or opens a section. -/
structure Line where
  indented : Bool
  key : String
  value : Document

/-- The entry of a line, if it has one. -/
def readLine? (line : String) : Option Line :=
  let cs := line.toList
  (readKey? (cs.dropWhile isBlank)).map fun (key, value) =>
    { indented := cs.head?.any isBlank, key, value := readValue value }

/-- The entries read so far, and the section that is open. -/
structure Progress where
  fields : Fields := []
  open? : Option String := none

/-- The entries after one more line. -/
def Progress.add (p : Progress) (line : Line) : Progress :=
  match line.indented, p.open? with
  | true, some name =>
    let entries := match Assoc.get? p.fields name with
      | some (.mapping entries) => entries
      | _ => []
    { p with fields := Assoc.put name (.mapping (Assoc.put line.key line.value entries)) p.fields }
  | _, _ => { fields := Assoc.put line.key line.value p.fields, open? := some line.key }

/-- The entries of a file. -/
def read (text : String) : Fields :=
  (((text.splitOn "\n").filterMap readLine?).foldl Progress.add {}).fields

end Restyle.Sections
