import Restyle.Text.Quoted

/-!
# Intents

What a command asks for, once its words are understood: its kind, the target and the value in
the user's words, a direction for relative changes, and whether it is about the selection.
-/

set_option autoImplicit false

namespace Restyle.Command

open Restyle.Text

/-- The kinds of command. -/
inductive IntentKind where
  | style
  | visibility
  | layout
  | mode
  | preset
  | undo
  | redo
  | unknown
  deriving DecidableEq, Repr

/-- The name of a kind. -/
def IntentKind.name : IntentKind → String
  | .style => "style"
  | .visibility => "visibility"
  | .layout => "layout"
  | .mode => "mode"
  | .preset => "preset"
  | .undo => "undo"
  | .redo => "redo"
  | .unknown => "unknown"

/-- The direction of a relative change. -/
inductive Direction where
  | more
  | less
  deriving DecidableEq, Repr

/-- A word that was expected to be a direction. -/
structure DirectionError where
  word : String
  deriving DecidableEq, Repr

/-- The wording of a direction error. -/
def DirectionError.message (e : DirectionError) : String :=
  quoted e.word ++ " is not a valid Delta"

namespace Direction

/-- The name of a direction. -/
def name : Direction → String
  | .more => "more"
  | .less => "less"

/-- The opposite direction. -/
def inverted : Direction → Direction
  | .more => .less
  | .less => .more

/-- One step up or down. -/
def sign : Direction → Int
  | .more => 1
  | .less => -1

/-- The direction that a word names. -/
def ofWord (word : String) : Except DirectionError Direction :=
  if word = "more" then .ok .more
  else if word = "less" then .ok .less
  else .error ⟨word⟩

end Direction

/-- What a command is about. -/
inductive Scope where
  | global
  | selected
  deriving DecidableEq, Repr

/-- The name of a scope. -/
def Scope.name : Scope → String
  | .global => "global"
  | .selected => "selected"

/-- The target of commands about the selection. -/
def contextualTarget : String := "this"

/-- The fields of an intent that its words decide. -/
structure Draft where
  kind : IntentKind
  confidence : Rat
  target : Option String := none
  value : Option String := none
  direction : Option Direction := none
  scope : Option Scope := none
  deriving DecidableEq, Repr

/-- A command as it was understood, with its text. -/
structure Intent extends Draft where
  raw : String
  deriving DecidableEq, Repr

namespace Intent

/-- Whether the command is about the selection. -/
def isContextual (i : Intent) : Bool :=
  i.target == some contextualTarget || i.scope == some .selected

/-- Whether the command asks for more or less of something. -/
def isRelative (i : Intent) : Bool := i.direction.isSome

/-- Whether the command is about the light or dark mode. -/
def isMode (i : Intent) : Bool := i.kind == .mode

/-- Whether the command asks for a preset. -/
def isPreset (i : Intent) : Bool := i.kind == .preset

end Intent

end Restyle.Command
