import Restyle.Console.Basic
import Restyle.Console.Options
import Restyle.Settings.Error
import Restyle.Settings.Read

/-!
# Starting the console

Settings and options together decide where themes go and what is logged.  The folder of the
options goes before that of the settings.
-/

set_option autoImplicit false

namespace Restyle

open Restyle.Sync

/-- Why the console cannot start. -/
inductive StartError where
  | settings (e : SettingsError)
  | unknownLogLevel (name : String)
  /-- A path that is no text. -/
  | notAPath (kind : DocumentKind)
  /-- A path below the home folder of a named user, which is not known. -/
  | unknownHome
  deriving DecidableEq, Repr

/-- The wording of a start error. -/
def StartError.message : StartError → String
  | .settings e => e.message
  | .unknownLogLevel name => "Level '" ++ name ++ "' does not exist"
  | .notAPath kind => "expected str, bytes or os.PathLike object, not " ++ kind.name
  | .unknownHome => "Could not determine home directory."

/-- The levels that the log knows. -/
def knownLogLevels : List String :=
  ["TRACE", "DEBUG", "INFO", "SUCCESS", "WARNING", "ERROR", "CRITICAL"]

/-- A path of the settings; an empty one counts as none. -/
def pathOf (d : Document) : Except StartError (Option String) :=
  match d with
  | .text s => .ok (if s = "" then none else some s)
  | d => if d.isEmpty then .ok none else .error (.notAPath d.kind)

/-- Whether a path begins with a tilde and the name of a user. -/
def startsAtUserHome (path : String) : Bool :=
  match path.toList with
  | '~' :: c :: _ => c != '/'
  | _ => false

/-- A path, unless it lies below the home folder of a named user. -/
def reachable (path : Option String) : Except StartError (Option String) :=
  if path.any startsAtUserHome then .error .unknownHome else .ok path

/-- The folder in which themes are kept: that of the options, or that of the settings. -/
def themeFolder (settings : Settings) (persistDir : Option String) :
    Except StartError (Option String) :=
  match persistDir with
  | some dir => reachable (some dir)
  | none => do reachable (← pathOf settings.themeFolder)

/-- Checks where and how much is logged. -/
def checkLogging (settings : Settings) (options : Console.Options) : Except StartError Unit := do
  let level := options.logLevel.value?.getD settings.logLevel
  if !knownLogLevels.contains level then throw (.unknownLogLevel level)
  match options.logFile.value? with
  | some _ => return
  | none =>
    let _ ← pathOf settings.logFile
    return

namespace Console

/-- The console for a key and a folder of themes, which starts out with the given files. -/
def start (settings : Settings) (persistKey persistDir : Option String) (files : Folder) :
    Except StartError Console := do
  let dir ← themeFolder settings persistDir
  return Console.new settings persistKey (dir.map fun _ => files)

/-- The console of a command line, for the settings of the file that it names. -/
def ofOptions (settings : Settings) (options : Options) (files : Folder) :
    Except StartError Console := do
  let _ ← reachable options.config.value?
  checkLogging settings options
  start settings options.persistKey.value? options.persistDir.value? files

end Console

end Restyle
