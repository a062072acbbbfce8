import Restyle.Interpreter.Session

/-!
# The console

The console reads one command a line.  A line may also select something, list the tokens, or
end the session; every other line is carried out, and its reply is printed.  Between two lines
the timers of themes that wait may go off.

* `Console.handle` — one line.
* `Console.runInputs` — lines and timers, and the writing of what waits at the end.
* `Console.run` — lines alone.
-/

set_option autoImplicit false

namespace Restyle

open Restyle.Interpreter Restyle.Store Restyle.Sync Restyle.Target Restyle.Text

/-- A session with the selection and the key under which themes are kept. -/
structure Console where
  session : Session
  persistKey : Option String := none
  selection : Option Selection := none

/-- What a line came to. -/
structure LineReport where
  /-- Whether to go on, or the fault of the command. -/
  outcome : Except Fault Bool
  console : Console
  /-- The lines that were printed. -/
  output : List String := []
  /-- The results of the commands. -/
  results : List Result := []

namespace Console

/-- A console over a fresh store, with a folder for themes if there is one. -/
def new (settings : Settings) (persistKey : Option String) (folder : Option Folder) : Console :=
  let scheduler : Scheduler := { sink := { folder } }
  { session := {
      settings
      collaborator := .scheduler (scheduler.subscribe "console" false).1 }
    persistKey }

/-- The folder of themes. -/
def folder? (c : Console) : Option Folder :=
  match c.session.collaborator with
  | .scheduler s => s.sink.folder
  | _ => none

/-! ## Lines -/

/-- The lines that show a result. -/
def resultLines (r : Result) : List String :=
  ((if r.success then "✓ " else "✗ ") ++ r.message) ::
    (match r.note with
      | some note => if note = "" then [] else ["  (" ++ note ++ ")"]
      | none => []) ++
    r.changes.map fun change =>
      "  " ++ change.token ++ ": " ++ change.oldValue ++ " -> " ++ change.newValue

/-- The lines that show the mode and all tokens, in the order of their names. -/
def tokenLines (store : TokenStore) : List String :=
  ("mode: " ++ store.mode.name) ::
    (store.tokens.mergeSort fun a b => decide (a.1 ≤ b.1)).map fun entry =>
      entry.1 ++ ": " ++ entry.2

/-- The selection that some words ask for, with the line that says so. -/
def selectionOf (current : Option Selection) (arguments : List String) :
    Option Selection × String :=
  let usage := "Usage: select component <id> <kind> | select page <id> | select none"
  match arguments with
  | [] => (none, "Selection cleared")
  | kind :: rest =>
    let kind := lower kind
    if kind = "none" then (none, "Selection cleared")
    else match rest with
      | id :: componentKind :: _ =>
        if kind = "component" then
          (some { kind := some kind, id := some id, componentKind := some (lower componentKind) },
            "Selected " ++ kind ++ " " ++ id)
        else if kind = "page" then
          (some { kind := some kind, id := some id }, "Selected " ++ kind ++ " " ++ id)
        else (current, usage)
      | [id] =>
        if kind = "page" then
          (some { kind := some kind, id := some id }, "Selected " ++ kind ++ " " ++ id)
        else (current, usage)
      | [] => (current, usage)

/-- Handles a line. -/
def handle (c : Console) (line : String) : LineReport :=
  let command := trim line
  let lowered := lower command
  if command = "" then { outcome := .ok true, console := c }
  else if lowered = "quit" || lowered = "exit" then { outcome := .ok false, console := c }
  else if lowered = "tokens" then
    { outcome := .ok true, console := c, output := tokenLines c.session.store }
  else if lowered = "select" || "select ".toList.isPrefixOf lowered.toList then
    let (selection, said) := selectionOf c.selection ((words command).drop 1)
    { outcome := .ok true, console := { c with selection }, output := [said] }
  else
    let report := c.session.execute command c.selection c.persistKey
    let console := { c with session := report.session }
    match report.outcome with
    | .error fault => { outcome := .error fault, console }
    | .ok result =>
      { outcome := .ok true, console, output := resultLines result, results := [result] }

/-- The timer of a key goes off. -/
def fire (c : Console) (key : String) : Console :=
  match c.session.collaborator with
  | .scheduler s => { c with session := { c.session with collaborator := .scheduler (s.fire key).1 } }
  | _ => c

/-- Writes what waits and stops the timers. -/
def close (c : Console) : Console :=
  match c.session.collaborator with
  | .scheduler s =>
    { c with session := { c.session with collaborator := .scheduler (s.shutdown true).1 } }
  | _ => c

/-! ## Runs -/

/-- What reaches a console. -/
inductive Input where
  | line (text : String)
  | timer (key : String)
  deriving DecidableEq, Repr

/-- Takes a line, or has a timer go off. -/
def accept (c : Console) : Input → LineReport
  | .line text => c.handle text
  | .timer key => { outcome := .ok true, console := c.fire key }

/-- Takes inputs until one ends the session or meets a fault. -/
def acceptAll (c : Console) : List Input → LineReport
  | [] => { outcome := .ok true, console := c }
  | input :: rest =>
    let report := c.accept input
    match report.outcome with
    | .ok true =>
      let others := report.console.acceptAll rest
      { others with
        output := report.output ++ others.output
        results := report.results ++ others.results }
    | _ => report

/-- The first line of a run. -/
def greeting : String := "Type a style command (\"help\" for ideas, \"quit\" to exit)."

/-- A run over all inputs: the greeting, the inputs, and the writing of what waits. -/
def runInputs (c : Console) (inputs : List Input) : LineReport :=
  let report := c.acceptAll inputs
  { report with console := report.console.close, output := greeting :: report.output }

/-- A run over lines alone. -/
def run (c : Console) (lines : List String) : LineReport := c.runInputs (lines.map .line)

end Console

end Restyle
