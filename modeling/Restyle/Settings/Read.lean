import Restyle.Document.Shown
import Restyle.Numeric.Numeral
import Restyle.Settings.Basic

/-!
# Reading settings

Settings are read from a document with four sections, each of which may be missing or empty.
They are looked for in a given file, in the file that the environment names, and in the default
file; without any of these the defaults hold.

* `Settings.ofDocument` — the settings of a document.
* `Settings.load` — the settings of the first file that exists.
-/

set_option autoImplicit false

namespace Restyle

open Restyle.Numeric Restyle.Text

/-! ## Values -/

/-- The entries of a section; an empty document counts as a section without entries. -/
def sectionOf (d : Document) : Except SettingsError Fields :=
  match d with
  | .mapping fields => .ok fields
  | d => if d.isEmpty then .ok [] else .error (.notSection d.kind)

/-- The section of a name. -/
def subsection (fields : Fields) (name : String) : Document :=
  (Assoc.get? fields name).getD .null

/-- The whole part of a number. -/
def wholePart (x : Binary64) : Except SettingsError Int :=
  match x with
  | .finite v => .ok (if 0 ≤ v then v.floor else -(-v).floor)
  | .negativeZero => .ok 0
  | .infinite _ => .error (.wholeOfNumber .infinite)
  | .indefinite => .error (.wholeOfNumber .indefinite)

/-- The whole number that a document stands for. -/
def wholeOf (d : Document) : Except SettingsError Int :=
  match d with
  | .bool b => .ok (if b then 1 else 0)
  | .whole n => .ok n
  | .real x => wholePart x
  | .text s => match wholeNumber? s with
    | some n => .ok n
    | none => .error (.notWhole s)
  | d => .error (.wholeOfKind d.kind)

/-- The decimal number that a document stands for. -/
def decimalOf (d : Document) : Except SettingsError Binary64 :=
  match d with
  | .bool b => .ok (.finite (if b then 1 else 0))
  | .whole n => match Binary64.ofInt n with
    | .infinite _ => .error .tooLarge
    | x => .ok x
  | .real x => .ok x
  | .text s => match decimalNumber? s with
    | some x => .ok x
    | none => .error (.notDecimal s)
  | d => .error (.decimalOfKind d.kind)

/-! ## Documents -/

/-- The settings of a document. -/
def Settings.ofDocument (d : Document) : Except SettingsError Settings := do
  let sections ← sectionOf d
  let entry := fun (fields : Fields) (name : String) (default : Document) =>
    (Assoc.get? fields name).getD default
  let tolerance := entry (← sectionOf (subsection sections "matching")) "tolerance" (.text "DEFAULT")
  let persistence ← sectionOf (subsection sections "persistence")
  let pause ← wholeOf (entry persistence "debounce_ms" (.whole 500))
  let foreground ← sectionOf (subsection sections "foreground")
  let threshold ← decimalOf (entry foreground "threshold" (.whole 50))
  let logging ← sectionOf (subsection sections "logging")
  RawSettings.check {
    tolerance := tolerance.shown
    pause
    themeFolder := entry persistence "directory" .null
    threshold
    dark := (entry foreground "dark" (.text "240 5.9% 10%")).shown
    light := (entry foreground "light" (.text "0 0% 98%")).shown
    logLevel := upper (entry logging "level" (.text "INFO")).shown
    logFile := entry logging "file" .null }

/-! ## Files -/

/-- Whether a settings file breaks its lines at a character that a text holds as it is. -/
def breaksLine (c : Char) : Bool :=
  c.toNat == 0x85 || c.toNat == 0x2028 || c.toNat == 0x2029

/-- A run of spaces and line breaks as it is read.  Without a line break it stays as it is, and
otherwise its spaces are lost.  A next-line character counts as a line feed, which as the first
of the run is lost before others and becomes a space on its own. -/
def foldRun (run : List Char) : List Char :=
  match run.filter breaksLine with
  | [] => run
  | first :: others =>
    let others := others.map fun c => if c.toNat = 0x85 then '\n' else c
    if first.toNat ≠ 0x85 then first :: others
    else if others.isEmpty then [' ']
    else others

/-- A text of a settings file as it is read; `run` are the spaces and line breaks before it, the
last one first. -/
def foldLines (run : List Char) : List Char → List Char
  | [] => foldRun run.reverse
  | c :: rest =>
    if c == ' ' || breaksLine c then foldLines (c :: run) rest
    else foldRun run.reverse ++ c :: foldLines [] rest

mutual

/-- A document as a settings file gives it back.  Lines of a text are folded.  A number that is
written with an exponent and without a decimal point is read as text, and so are the words for
numbers that are not finite. -/
def Document.asRead : Document → Document
  | .real x => match x with
    | .infinite negative => .text (if negative then "-Infinity" else "Infinity")
    | .indefinite => .text "NaN"
    | x => if (shortest x).toList.contains '.' then .real x else .text (shortest x)
  | .text s => .text (String.ofList (foldLines [] s.toList))
  | .list items => .list (Document.itemsAsRead items)
  | .mapping fields => .mapping (Document.fieldsAsRead fields)
  | d => d

/-- The items of a list as a settings file gives them back. -/
def Document.itemsAsRead : List Document → List Document
  | [] => []
  | d :: rest => d.asRead :: Document.itemsAsRead rest

/-- The entries of a mapping as a settings file gives them back. -/
def Document.fieldsAsRead : List (String × Document) → List (String × Document)
  | [] => []
  | entry :: rest => Document.entryAsRead entry :: Document.fieldsAsRead rest

/-- An entry of a mapping as a settings file gives it back. -/
def Document.entryAsRead : String × Document → String × Document
  | (key, value) => (key, value.asRead)

end

/-- The settings of the first of some files that exists; files without a name are passed
over, and the default file is looked at last. -/
def Settings.load (files : String → Option Document) (names : List String)
    (defaultFile : Option Document) : Except SettingsError Settings :=
  let found := (names.filter (· != "")).findSome? files
  match found.or defaultFile with
  | some d => Settings.ofDocument d.asRead
  | none => .ok {}

end Restyle
