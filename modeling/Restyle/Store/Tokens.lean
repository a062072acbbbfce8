import Restyle.Assoc

/-!
# Design tokens

A design token is a named text: a stored colour, or the value of a scale.  Tokens keep the
order in which they were first given.
-/

set_option autoImplicit false

namespace Restyle.Store

/-- Tokens with their values. -/
abbrev Tokens := List (String × String)

namespace Tokens

/-- The value of a token; empty when it has none. -/
def get (tokens : Tokens) (token : String) : String := (Assoc.get? tokens token).getD ""

/-- Sets the value of a token. -/
def put (tokens : Tokens) (token value : String) : Tokens := Assoc.put token value tokens

/-- The names of the tokens. -/
def names (tokens : Tokens) : List String := Assoc.keys tokens

end Tokens

/-- Tokens that hold a length, a weight or the mode, and not a colour. -/
def plainTokens : List String := ["radius", "spacing", "font-size", "font-weight", "mode"]

/-- The tokens of a fresh store. -/
def defaultTokens : Tokens := [
    ("background", "0 0% 100%"), ("foreground", "240 10% 3.9%"), ("card", "0 0% 100%"),
    ("card-foreground", "240 10% 3.9%"), ("popover", "0 0% 100%"),
    ("popover-foreground", "240 10% 3.9%"), ("primary", "240 5.9% 10%"),
    ("primary-foreground", "0 0% 98%"), ("secondary", "240 4.8% 95.9%"),
    ("secondary-foreground", "240 5.9% 10%"), ("muted", "240 4.8% 95.9%"),
    ("muted-foreground", "240 3.8% 46.1%"), ("accent", "240 4.8% 95.9%"),
    ("accent-foreground", "240 5.9% 10%"), ("destructive", "0 84.2% 60.2%"),
    ("destructive-foreground", "0 0% 98%"), ("border", "240 5.9% 90%"), ("input", "240 5.9% 90%"),
    ("ring", "240 5.9% 10%"), ("chart-1", "12 76% 61%"), ("chart-2", "173 58% 39%"),
    ("chart-3", "197 37% 24%"), ("chart-4", "43 74% 66%"), ("chart-5", "27 87% 67%"),
    ("sidebar-background", "0 0% 98%"), ("sidebar-foreground", "240 5.3% 26.1%"),
    ("sidebar-primary", "240 5.9% 10%"), ("sidebar-primary-foreground", "0 0% 98%"),
    ("sidebar-accent", "240 4.8% 95.9%"), ("sidebar-accent-foreground", "240 5.9% 10%"),
    ("sidebar-border", "220 13% 91%"), ("radius", "0.5rem"), ("spacing", "1rem"),
    ("font-size", "1rem"), ("font-weight", "400")]

/-- The light and the dark mode. -/
inductive Mode where
  | light
  | dark
  deriving DecidableEq, Repr

namespace Mode

/-- The name of a mode. -/
def name : Mode → String
  | .light => "light"
  | .dark => "dark"

/-- The other mode. -/
def toggled : Mode → Mode
  | .light => .dark
  | .dark => .light

/-- The mode of a name. -/
def ofName? (name : String) : Option Mode :=
  if name = "light" then some .light else if name = "dark" then some .dark else none

end Mode

end Restyle.Store
