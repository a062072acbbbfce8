import Restyle.Matching.Ranking
import Restyle.Vocabulary.Colors
import Restyle.Vocabulary.Presets
import Restyle.Vocabulary.Targets

/-!
# Messages

What the user is told when a command is not understood: plain words, a short list of what may
have been meant, and an example.
-/

set_option autoImplicit false

namespace Restyle.Message

open Restyle.Matching Restyle.Vocabulary

/-- The least similarity of a suggestion in a message. -/
def suggestionSimilarity : Rat := 2 / 5

/-- At most three suggestions for a text. -/
def suggestionsFor (text : String) (candidates : List String) : List Match :=
  closeMatches scoreRounding text candidates 3 suggestionSimilarity

/-- Lines of a list, each on a line of its own. -/
def bullets (lines : List String) : String :=
  String.join (lines.map fun line => "\n  • " ++ line)

/-- What targets are, in plain words. -/
def targetDescriptions : List (String × String) := [
    ("background", "the page/app background color"),
    ("primary", "the main theme color (buttons, links)"),
    ("secondary", "the secondary theme color"),
    ("text", "the color of text/words"),
    ("card", "the color of cards, boxes, and panels"),
    ("button", "the color of buttons"),
    ("border", "the color of borders and lines"),
    ("sidebar", "the sidebar/menu color"),
    ("popover", "popup and dropdown colors"),
    ("input", "form field and input colors"),
    ("ring", "focus highlight color"),
    ("error", "error and warning colors"),
    ("muted", "subtle/faded text color"),
    ("chart", "graph and chart colors"),
    ("radius", "how rounded corners are"),
    ("spacing", "how much room there is between things"),
    ("font-size", "how big text is"),
    ("font-weight", "how bold text is")]

/-- Example commands by subject. -/
def exampleCommands : List (String × List String) := [
    ("color", [
      "make the background blue",
      "change the primary color to green",
      "set the text to dark gray",
      "make buttons purple"]),
    ("radius", [
      "make corners more rounded",
      "set corners to sharp",
      "make it rounded",
      "less rounding"]),
    ("mode", [
      "switch to dark mode",
      "enable light mode",
      "toggle dark mode"]),
    ("general", [
      "make the background light blue",
      "more rounded corners",
      "switch to dark mode"])]

/-- Example commands for a subject, or general ones. -/
def examplesFor (subject : String) : List String :=
  (exampleCommands.lookup subject).getD ((exampleCommands.lookup "general").getD [])

/-- A list of suggestions. -/
def suggestionList (candidates : List String) : String :=
  if candidates.isEmpty then "" else "Did you mean:" ++ bullets candidates

/-- A target with its description, if it has one. -/
def describedTarget (name : String) : String :=
  match targetDescriptions.lookup name with
  | some description => name ++ " - " ++ description
  | none => name

/-- A target that is not known, with what may have been meant. -/
def unknownTargetOr (term : String) (found : List Match) : String :=
  "I didn't recognize \"" ++ term ++ "\"." ++
    (if found.isEmpty then
      "\n\nThings you can change:" ++ bullets [
        "background - the page color",
        "primary/main - the theme color",
        "text - the text color",
        "cards - card/panel colors",
        "corners/radius - how rounded things are"]
    else
      "\n\nDid you mean:" ++ bullets (found.map fun m => describedTarget m.candidate)) ++
    "\n\nExample: \"make the background blue\""

/-- A target that is not known. -/
def unknownTarget (term : String) : String :=
  unknownTargetOr term (suggestionsFor term targetWords.keys)

/-- A colour that is not known, with what may have been meant. -/
def unknownColorOr (value : String) (found : List Match) : String :=
  "I'm not sure what color \"" ++ value ++ "\" is." ++
    (if found.isEmpty then
      "\n\nTry colors like:" ++ bullets [
        "blue, light blue, navy",
        "green, emerald, teal",
        "red, pink, rose",
        "purple, violet, indigo",
        "gray, slate, white, black",
        "Or a hex code like #3B82F6"]
    else "\n\n" ++ suggestionList (found.map (·.candidate))) ++
    "\n\nExample: \"make it light blue\""

/-- A colour that is not known. -/
def unknownColor (value : String) : String :=
  unknownColorOr value (suggestionsFor value colorWords.keys)

/-- A text between double quotes. -/
def inQuotes (s : String) : String := "\"" ++ s ++ "\""

/-- A command that was not understood, with examples of commands that are. -/
def unparseableBut (text : String) (examples : List String) : String :=
  "I didn't understand: \"" ++ text ++ "\"" ++
    "\n\nTry saying things like:" ++ bullets (examples.map inQuotes) ++
    "\n\nOr just describe what you want:" ++ bullets [
      "\"make it pop\" - more vibrant",
      "\"tone it down\" - more subtle",
      "\"softer corners\" - more rounded"]

/-- A command that was not understood. -/
def unparseable (text : String) : String := unparseableBut text (examplesFor "general")

/-- A token's name in plain words. -/
def spaced (token : String) : String :=
  String.ofList (token.toList.map fun c => if c == '-' then ' ' else c)

/-- A value that does not fit a target. -/
def invalidValue (target value : String) : String :=
  "I couldn't set " ++ target ++ " to \"" ++ value ++ "\"." ++
    (if ["radius", "corners"].contains target then
      "\n\nFor corners, try:" ++ bullets [
        "sharp, square (no rounding)",
        "small, subtle (slight rounding)",
        "rounded, medium (moderate)",
        "large, soft (more rounded)",
        "pill, full (completely round)"] ++
      "\n\nOr say \"more rounded\" or \"less rounded\""
    else if ["spacing", "font-size", "font-weight"].contains target then
      "\n\nTry a size like:" ++ bullets ["small", "medium", "large"] ++
      "\n\nOr say \"more " ++ spaced target ++ "\" or \"less " ++ spaced target ++ "\""
    else
      "\n\nFor colors, try:" ++ bullets [
        "A color name: blue, green, purple",
        "A shade: light blue, dark green",
        "A hex code: #3B82F6"])

/-- A preset that does not exist, with what may have been meant. -/
def unknownPresetOr (name : String) (found : List Match) : String :=
  "I don't recognize the style \"" ++ name ++ "\"." ++
    (if found.isEmpty then
      " Try: \"make it pop\", \"modernize\", \"professional\", \"playful\""
    else
      " Did you mean: " ++ String.intercalate ", " (found.map fun m => inQuotes m.candidate) ++ "?")

/-- A preset that does not exist. -/
def unknownPreset (name : String) : String :=
  unknownPresetOr name (suggestionsFor name (presets.map (·.name)))

/-- What can be said. -/
def help : String :=
  String.intercalate "\n" [
    "Here's what you can do:",
    "",
    "🎨 COLORS",
    "  \"make the background blue\"",
    "  \"change primary color to green\"",
    "  \"set buttons to purple\"",
    "  \"darker text color\"",
    "",
    "📐 CORNERS",
    "  \"more rounded corners\"",
    "  \"make it sharp\"",
    "  \"softer edges\"",
    "",
    "🌙 MODE",
    "  \"switch to dark mode\"",
    "  \"light mode\"",
    "  \"toggle mode\"",
    "",
    "✨ QUICK STYLES",
    "  \"make it pop\" - more vibrant",
    "  \"tone it down\" - more subtle",
    "  \"modernize\" - clean, modern look",
    "  \"professional\" - business-like",
    "",
    "💡 TIPS",
    "  • You can say things naturally",
    "  • Typos are okay, I'll figure it out",
    "  • Ask for \"more\" or \"less\" of something"]

end Restyle.Message
