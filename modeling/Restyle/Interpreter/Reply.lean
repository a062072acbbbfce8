import Restyle.Command.Intent

/-!
# Replies

What is told about a command: whether it succeeded, a message, the note of a guess, and for a
failure its kind.
-/

set_option autoImplicit false

namespace Restyle.Interpreter

open Restyle.Command

/-- The kinds of failure. -/
inductive FailureKind where
  | unparseableCommand
  | unknownTarget
  | unknownValue
  | unresolvableRelative
  | unknownPreset
  deriving DecidableEq, Repr

/-- The name of a kind of failure. -/
def FailureKind.name : FailureKind → String
  | .unparseableCommand => "unparseable_command"
  | .unknownTarget => "unknown_target"
  | .unknownValue => "unknown_value"
  | .unresolvableRelative => "unresolvable_relative"
  | .unknownPreset => "unknown_preset"

/-- What is told about a command. -/
structure Reply where
  success : Bool
  message : String
  error : Option String := none
  /-- What was guessed. -/
  note : Option String := none
  /-- The kind of the command; none for the request for help. -/
  kind : Option IntentKind := none
  failure : Option FailureKind := none
  deriving DecidableEq, Repr

/-- A value that a command changed. -/
structure Change where
  token : String
  oldValue : String
  newValue : String
  deriving DecidableEq, Repr

/-- A reply with the changes that were made. -/
structure Result extends Reply where
  changes : List Change := []
  deriving DecidableEq, Repr

/-- The reply to a command that failed. -/
def failure (intent : Intent) (kind : FailureKind) (message error : String) : Reply :=
  { success := false, message, error := some error, kind := some intent.kind, failure := some kind }

/-- The reply to a command that succeeded. -/
def success (intent : Intent) (message : String) (note : Option String := none) : Reply :=
  { success := true, message, note, kind := some intent.kind }

end Restyle.Interpreter
