import Restyle.Target.Definition
import Restyle.Text.Case

/-!
# Components

Kinds of component with the tokens that they use.  The first token is the one that a command
about a selected component changes.
-/

set_option autoImplicit false

namespace Restyle.Target

open Restyle.Text

/-- The tokens of every known kind of component. -/
def componentTokens : List (String × List String) := [
    ("card", ["card", "card-foreground", "radius"]),
    ("button", ["primary", "primary-foreground", "radius"]),
    ("input", ["input", "border", "radius"]),
    ("container", ["background", "foreground"]),
    ("text", ["foreground", "muted-foreground"]),
    ("heading", ["foreground"]),
    ("list", ["card", "border"]),
    ("table", ["card", "border", "muted"]),
    ("form", ["card", "input", "border"]),
    ("calendar", ["card", "primary", "muted"]),
    ("chart", ["chart-1", "chart-2", "chart-3", "chart-4", "chart-5"]),
    ("sidebar", ["sidebar-background", "sidebar-foreground", "sidebar-border"]),
    ("popover", ["popover", "popover-foreground"]),
    ("dropdown", ["popover", "popover-foreground"]),
    ("modal", ["card", "card-foreground"]),
    ("dialog", ["card", "card-foreground"])]

/-- The tokens that a kind of component uses, letter case not counting. -/
def tokensOfComponent (kind : String) : List String :=
  (componentTokens.lookup (lower kind)).getD []

/-- The token that stands for a kind of component: its first one, or the brand colour. -/
def tokenOfComponent (kind : String) : String :=
  (tokensOfComponent kind).headD primary.token

/-- The tokens that carry a property; `none` for colour, which every component has. -/
def propertyTokens (property : String) : Option (List String) :=
  if property = "radius" || property = "corners" then some ["radius"]
  else if property = "color" then none
  else some [property]

/-- Whether a kind of component has a property. -/
def componentSupports (kind property : String) : Bool :=
  let tokens := tokensOfComponent kind
  !tokens.isEmpty &&
    match propertyTokens (lower property) with
    | none => true
    | some required => required.any tokens.contains

end Restyle.Target
