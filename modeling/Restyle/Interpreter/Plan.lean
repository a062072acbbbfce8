import Restyle.Change.Relative
import Restyle.Color.Foreground
import Restyle.Color.Notation
import Restyle.Command.Parse
import Restyle.Interpreter.Lookup
import Restyle.Interpreter.Reply
import Restyle.Message
import Restyle.Store.Basic
import Restyle.Sync.Folder
import Restyle.Vocabulary.Modes
import Restyle.Vocabulary.Presets

/-!
# Plans

Everything about a command is worked out before anything is written: the writes in their
order, the part of the theme to be kept, and the reply.  Only a preset can run into a fault
after some of its writes are settled; these are made all the same.

* `planIntent` — the plan of an intent, given the stored tokens.
-/

set_option autoImplicit false

namespace Restyle.Interpreter

open Restyle.Change Restyle.Color Restyle.Command Restyle.Store Restyle.Sync Restyle.Target
  Restyle.Text Restyle.Vocabulary

/-! ## The parts of a plan -/

/-- A write to the store. -/
inductive Write where
  | token (name value : String)
  | mode (mode : Mode)
  deriving DecidableEq, Repr

/-- The writes of a command, the part of the theme that is to be kept, and the reply. -/
structure Plan where
  writes : List Write := []
  patch : Theme := []
  reply : Except Fault Reply

/-- A plan that only replies. -/
def Plan.answer (reply : Reply) : Plan := { reply := .ok reply }

/-- Adds a value at a place of a theme. -/
def addToPatch (patch : Theme) (path : ThemePath) (value : String) : Theme :=
  match path.entry with
  | some entry =>
    let fields := match Assoc.get? patch path.group with
      | some (.mapping fields) => fields
      | _ => []
    Assoc.put path.group (.mapping (Assoc.put entry (.text value) fields)) patch
  | none => Assoc.put path.group (.text value) patch

/-- The write of the foreground that is shown on a surface, if the surface has one and is a
colour. -/
def foregroundWrites (rule : ForegroundRule) (foreground : Option String) (surface : String) :
    List Write :=
  match foreground, rule.foregroundFor? surface with
  | some token, some value => [.token token value]
  | _, _ => []

/-- The writes of a surface and its foreground. -/
def surfaceWrites (rule : ForegroundRule) (token : String) (foreground : Option String)
    (value : String) : List Write :=
  .token token value :: foregroundWrites rule foreground value

/-- A text, or another one in place of a missing or empty one. -/
def orElse (value : Option String) (other : String) : String :=
  match value with
  | some s => if s = "" then other else s
  | none => other

/-! ## Mode, visibility and layout -/

/-- The mode that a word asks for; any other word toggles. -/
def modeFor (current : Mode) (value : Option String) : Mode :=
  let word := tableKey (value.getD "")
  match (modeWords.meaning? word).getD word with
  | "dark" => .dark
  | "light" => .light
  | _ => current.toggled

/-- The name of a mode in messages. -/
def modeLabel : Mode → String
  | .dark => "Dark"
  | .light => "Light"

/-- The plan of switching the mode. -/
def planMode (current : Mode) (value : Option String) : Plan :=
  let mode := modeFor current value
  { writes := [.mode mode]
    reply := .ok {
      success := true
      message := "Switched to " ++ modeLabel mode ++ " mode ✓"
      kind := some .mode } }

/-- The reply to a visibility command. -/
def visibilityReply (intent : Intent) : Reply :=
  success intent ("To " ++ (if intent.value = some "hidden" then "hide" else "show") ++ " \"" ++
    orElse intent.target "element" ++
    "\", use the Page Tree panel on the left to find and modify the component.")

/-- The reply to a layout command. -/
def layoutReply (intent : Intent) : Reply :=
  success intent ("Layout changes like \"" ++ orElse intent.value "unknown" ++
    "\" require editing the page structure. Use the Page Tree panel to modify layout.")

/-! ## Presets -/

/-- The direction that a directive asks for; a moderate one leaves things as they are. -/
def directiveDirection? (directive : String) : Option Direction :=
  if directive = "increase" || directive = "high" then some .more
  else if directive = "decrease" || directive = "low" then some .less
  else none

/-- How far the directives of a preset were followed. -/
structure PresetProgress where
  writes : List Write := []
  patch : Theme := []
  /-- The brand colour that is worked on. -/
  working : String
  recolored : Bool := false

/-- Follows one directive.  Corner directives are writes; colour directives stack on the
working colour.  A directive that cannot be followed is left out. -/
def followDirective (p : PresetProgress) (property directive : String) :
    Except Fault PresetProgress :=
  if property = "radius" then
    match radiusScale.value? directive with
    | none => .ok p
    | some value => .ok { p with
        writes := p.writes ++ [.token radius.token value]
        patch := addToPatch p.patch radius.path value }
  else match directiveDirection? directive with
    | none => .ok p
    | some direction => match adjustColor p.working direction property with
      | .error fault => .error fault
      | .ok (.error _) => .ok p
      | .ok (.ok change) => .ok { p with working := change.newValue, recolored := true }

/-- Follows directives in order; on a fault the progress before it comes with the fault. -/
def followDirectives (p : PresetProgress) :
    List (String × String) → PresetProgress × Option Fault
  | [] => (p, none)
  | (property, directive) :: rest =>
    match followDirective p property directive with
    | .error fault => (p, some fault)
    | .ok p => followDirectives p rest

/-- The plan of a preset. -/
def planPreset (rule : ForegroundRule) (store : TokenStore) (intent : Intent) : Plan :=
  let word := tableKey (intent.value.getD "")
  let name := (presetPhrases.meaning? word).getD word
  match preset? name with
  | none => .answer (failure intent .unknownPreset (Message.unknownPreset name)
      ("Unknown preset: " ++ name))
  | some preset =>
    match followDirectives { working := store.get primary.token } preset.directives with
    | (p, some fault) => { writes := p.writes, reply := .error fault }
    | (p, none) =>
      let reply := success intent ("Applied \"" ++ name ++ "\" style: " ++ preset.description)
      if p.recolored then
        { writes := p.writes ++ surfaceWrites rule primary.token primary.foreground p.working
          patch := addToPatch p.patch primary.path p.working
          reply := .ok reply }
      else { writes := p.writes, patch := p.patch, reply := .ok reply }

/-! ## Style commands -/

/-- The plan of one value: the write of the token and of its foreground, and the place in the
theme. -/
def planValue (rule : ForegroundRule) (token : String) (foreground : Option String)
    (path : Option ThemePath) (value : String) (reply : Reply) : Plan :=
  { writes := surfaceWrites rule token foreground value
    patch := path.elim [] fun path => addToPatch [] path value
    reply := .ok reply }

/-- The plan of "more" or "less" of something.  A property that lives in a scale is written to
the scale's own token. -/
def planRelative (rule : ForegroundRule) (store : TokenStore) (intent : Intent) (binding : Binding)
    (phrase : String) (direction : Direction) : Plan :=
  let bound := binding.definition
  match relativeChange store.get phrase direction bound.token with
  | .error fault => { reply := .error fault }
  | .ok (.error e) =>
    .answer (failure intent .unresolvableRelative e.message e.message)
  | .ok (.ok change) =>
    let reply := success intent ("Made " ++ phrase ++ " " ++ direction.name) binding.note
    match change.scaleStep with
    | some (token, _) =>
      if token = bound.token then
        planValue rule token bound.foreground (some bound.path) change.newValue reply
      else
        planValue rule token none ((definitionOfToken? token).map (·.path)) change.newValue reply
    | none => planValue rule bound.token bound.foreground (some bound.path) change.newValue reply

/-- The definition that an absolute command changes: the bound one, or the corners for a corner
word about the selection. -/
def absoluteDefinition (intent : Intent) (bound : Definition) (value : String) : Definition :=
  if (scale? bound.token).isNone && intent.isContextual && isRadiusWord value &&
      !isColorWord value then radius
  else bound

/-- The value of a word for a token. -/
def absoluteValue (t : Thresholds) (token value : String) : Option Found :=
  if token = radiusScale.token then lookupRadius t value
  else match scale? token with
    | some s => lookupScale t s value
    | none =>
      if value != "" && isNotation value then some { value := normalize value }
      else lookupColor t value

/-- What was changed, in words. -/
def changedLabel (intent : Intent) (token : String) : String :=
  if token = radiusScale.token then "corners"
  else if (scale? token).isSome then Message.spaced token
  else if intent.isContextual then "it"
  else orElse intent.target "color"

/-- The message for a value that a token cannot take. -/
def unknownValueMessage (token shown : String) : String :=
  if token = radiusScale.token then Message.invalidValue "corners" shown
  else if (scale? token).isSome then Message.invalidValue token shown
  else Message.unknownColor shown

/-- The plan of giving a token a value. -/
def planAbsolute (settings : Settings) (intent : Intent) (binding : Binding) : Plan :=
  let value := normalizeValue (intent.value.getD "")
  let definition := absoluteDefinition intent binding.definition value
  let token := definition.token
  match absoluteValue settings.thresholds token value with
  | none =>
    let shown := orElse intent.value "value"
    .answer (failure intent .unknownValue (unknownValueMessage token shown)
      ("Unknown value: " ++ shown))
  | some found =>
    planValue settings.foreground token definition.foreground (some definition.path) found.value
      (success intent ("Changed " ++ changedLabel intent token ++ " to " ++ intent.value.getD "")
        (found.note.or binding.note))

/-- The limits within which targets match. -/
def targetLimits (t : Thresholds) : Matching.Limits :=
  ⟨t.targetMaxDistance, t.targetMinSimilarity, t.usePhonetic⟩

/-- The plan of a style command. -/
def planStyle (settings : Settings) (store : TokenStore) (intent : Intent)
    (selection : Option Selection) : Plan :=
  match resolve Matching.scoreRounding (targetLimits settings.thresholds) intent selection with
  | .error e =>
    let message := Message.unknownTarget e.term
    .answer (failure intent .unknownTarget message message)
  | .ok binding =>
    if binding.definition.category = .mode then planMode store.mode intent.value
    else match intent.direction, intent.value with
      | some direction, some phrase =>
        if phrase = "" then planAbsolute settings intent binding
        else planRelative settings.foreground store intent binding phrase direction
      | _, _ => planAbsolute settings intent binding

/-! ## All commands -/

/-- The plan of an intent. -/
def planIntent (settings : Settings) (store : TokenStore) (intent : Intent)
    (selection : Option Selection) : Plan :=
  match intent.kind with
  | .unknown => .answer (failure intent .unparseableCommand
      (Message.unparseable (trim intent.raw)) "Could not parse command")
  | .undo => .answer (success intent "Use Ctrl+Z to undo")
  | .redo => .answer (success intent "Use Ctrl+Y to redo")
  | .mode => planMode store.mode intent.value
  | .visibility => .answer (visibilityReply intent)
  | .layout => .answer (layoutReply intent)
  | .preset => planPreset settings.foreground store intent
  | .style => planStyle settings store intent selection

/-- Whether a text asks for help. -/
def asksForHelp (text : String) : Bool := ["help", "?"].contains (tableKey text)

/-- The plan of a text. -/
def planText (settings : Settings) (store : TokenStore) (text : String)
    (selection : Option Selection) : Plan :=
  if asksForHelp text then .answer { success := true, message := Message.help }
  else match parse text with
    | .error e => { reply := .error (.direction e) }
    | .ok intent => planIntent settings store intent selection

end Restyle.Interpreter
