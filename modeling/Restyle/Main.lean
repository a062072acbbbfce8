import Restyle.Console.Start
import Restyle.Document.Sections

/-!
# The command line

Reads the options and the settings, hands standard input to a console line by line, and keeps
the themes in files when it ends.
-/

set_option autoImplicit false

namespace Restyle

open Restyle.Sync

/-- What the options are. -/
def usage : String :=
  "usage: restyle [-h] [--config FILE] [--log-level LEVEL] [--log-file FILE] " ++
    "[--persist-key KEY] [--persist-dir FOLDER]"

/-- The settings file that is read when no other one is named. -/
def defaultSettingsFile : String := "config/settings.yaml"

/-- The document of a file, if the file can be read. -/
def readDocument? (path : String) : IO (Option Document) := do
  try
    return some (.mapping (Sections.read (← IO.FS.readFile path)))
  catch _ =>
    return none

/-- The documents of the files that can be read, by path. -/
def readDocuments (paths : List String) : IO (List (String × Document)) :=
  paths.filterMapM fun path => do
    return (← readDocument? path).map fun d => (path, d)

/-- Reads the settings: those of the named file, of the environment, or the default ones. -/
def readSettings (config : Option String) : IO (Except SettingsError Settings) := do
  let named := [config.getD "", (← IO.getEnv "RESTYLE_CONFIG").getD ""]
  let documents ← readDocuments (defaultSettingsFile :: named)
  return Settings.load (Assoc.get? documents) named (Assoc.get? documents defaultSettingsFile)

/-- Prints lines. -/
def printLines (lines : List String) : IO Unit := lines.forM IO.println

/-- Hands lines to a console until one ends the session or meets a fault. -/
partial def converse (input : IO.FS.Stream) (c : Console) : IO (Console × Option Fault) := do
  let line ← input.getLine
  if line.isEmpty then return (c, none)
  let report := c.handle line
  printLines report.output
  match report.outcome with
  | .ok true => converse input report.console
  | .ok false => return (report.console, none)
  | .error fault => return (report.console, some fault)

/-- Merges themes into the files of a folder. -/
def keepThemes (path : String) (folder : Folder) : IO Unit := do
  if !folder.files.isEmpty then IO.FS.createDirAll path
  folder.files.forM fun (name, theme) => do
    let file := path ++ "/" ++ name
    let base := match ← readDocument? file with
      | some (.mapping fields) => fields
      | _ => []
    IO.FS.writeFile file (Sections.print (Document.mergeFields base theme))

/-- Reports why the program ends. -/
def giveUp (message : String) (code : UInt32) : IO UInt32 := do
  IO.eprintln message
  return code

/-- Runs a console over standard input and keeps its themes. -/
def runConsole (c : Console) (path : Option String) : IO UInt32 := do
  printLines [Console.greeting]
  let (c, fault) ← converse (← IO.getStdin) c
  match path, c.close.folder? with
  | some path, some folder => keepThemes path folder
  | _, _ => pure ()
  match fault with
  | some fault => giveUp fault.message 1
  | none => return 0

/-- Runs the program with the given options. -/
def runWith (options : Console.Options) : IO UInt32 := do
  match ← readSettings options.config.value? with
  | .error e => giveUp e.message 1
  | .ok settings =>
    match Console.ofOptions settings options {}, themeFolder settings options.persistDir.value? with
    | .ok c, .ok path => runConsole c path
    | .error e, _ => giveUp e.message 1
    | _, .error e => giveUp e.message 1

end Restyle

/-- Runs the program with the arguments of its command line. -/
def main (arguments : List String) : IO UInt32 :=
  match Restyle.Console.Options.read arguments with
  | .ok options => Restyle.runWith options
  | .error .help => do
    IO.println Restyle.usage
    return 0
  | .error .usage => Restyle.giveUp Restyle.usage 2
