/-!
# Targets and their tokens

A target is something that can be styled.  Its definition binds it to a design token, to a
place in the theme, and for a surface to the token of the foreground that is kept readable on
it.  Several targets may share a token.
-/

set_option autoImplicit false

namespace Restyle.Target

/-- The kinds of token. -/
inductive Category where
  | color
  | typography
  | spacing
  | layout
  | mode
  deriving DecidableEq, Repr

/-- The name of a kind of token. -/
def Category.name : Category → String
  | .color => "color"
  | .typography => "typography"
  | .spacing => "spacing"
  | .layout => "layout"
  | .mode => "mode"

/-- A place in a theme: an entry of a section, or a section as a whole. -/
structure ThemePath where
  group : String
  entry : Option String
  deriving DecidableEq, Repr

/-- A place in a theme as text. -/
def ThemePath.text (p : ThemePath) : String :=
  match p.entry with
  | some e => p.group ++ "." ++ e
  | none => p.group

/-- What a target is bound to. -/
structure Definition where
  token : String
  path : ThemePath
  description : String
  category : Category
  /-- The token of the foreground that is shown on this one. -/
  foreground : Option String
  deriving DecidableEq, Repr

/-- The definitions of all targets, by canonical name. -/
def definitions : List (String × Definition) := [
    ("background",
      ⟨"background", ⟨"colors", some "background"⟩, "Page background color", .color, none⟩),
    ("primary",
      ⟨"primary", ⟨"colors", some "primary"⟩, "Primary/brand color", .color, some "primary-foreground"⟩),
    ("secondary",
      ⟨"secondary", ⟨"colors", some "secondary"⟩, "Secondary color", .color, some "secondary-foreground"⟩),
    ("accent",
      ⟨"accent", ⟨"colors", some "accent"⟩, "Accent color", .color, some "accent-foreground"⟩),
    ("text",
      ⟨"foreground", ⟨"colors", some "text"⟩, "Text color", .color, none⟩),
    ("card",
      ⟨"card", ⟨"colors", some "surface"⟩, "Card/surface color", .color, some "card-foreground"⟩),
    ("popover",
      ⟨"popover", ⟨"colors", some "popover"⟩, "Popover/dropdown color", .color, some "popover-foreground"⟩),
    ("button",
      ⟨"primary", ⟨"colors", some "primary"⟩, "Button color", .color, some "primary-foreground"⟩),
    ("input",
      ⟨"input", ⟨"colors", some "input"⟩, "Input field color", .color, none⟩),
    ("ring",
      ⟨"ring", ⟨"colors", some "ring"⟩, "Focus ring color", .color, none⟩),
    ("border",
      ⟨"border", ⟨"colors", some "border"⟩, "Border color", .color, none⟩),
    ("error",
      ⟨"destructive", ⟨"colors", some "error"⟩, "Error/danger color", .color, some "destructive-foreground"⟩),
    ("muted",
      ⟨"muted", ⟨"colors", some "muted"⟩, "Muted/subtle color", .color, some "muted-foreground"⟩),
    ("sidebar",
      ⟨"sidebar-background", ⟨"colors", some "sidebar"⟩, "Sidebar background", .color, some "sidebar-foreground"⟩),
    ("sidebar-primary",
      ⟨"sidebar-primary", ⟨"colors", some "sidebarPrimary"⟩, "Sidebar primary color", .color, some "sidebar-primary-foreground"⟩),
    ("sidebar-accent",
      ⟨"sidebar-accent", ⟨"colors", some "sidebarAccent"⟩, "Sidebar accent color", .color, some "sidebar-accent-foreground"⟩),
    ("sidebar-border",
      ⟨"sidebar-border", ⟨"colors", some "sidebarBorder"⟩, "Sidebar border color", .color, none⟩),
    ("chart",
      ⟨"chart-1", ⟨"colors", some "chart1"⟩, "Chart primary color", .color, none⟩),
    ("chart-1",
      ⟨"chart-1", ⟨"colors", some "chart1"⟩, "Chart color 1", .color, none⟩),
    ("chart-2",
      ⟨"chart-2", ⟨"colors", some "chart2"⟩, "Chart color 2", .color, none⟩),
    ("chart-3",
      ⟨"chart-3", ⟨"colors", some "chart3"⟩, "Chart color 3", .color, none⟩),
    ("chart-4",
      ⟨"chart-4", ⟨"colors", some "chart4"⟩, "Chart color 4", .color, none⟩),
    ("chart-5",
      ⟨"chart-5", ⟨"colors", some "chart5"⟩, "Chart color 5", .color, none⟩),
    ("radius",
      ⟨"radius", ⟨"spacing", some "borderRadius"⟩, "Border radius", .spacing, none⟩),
    ("spacing",
      ⟨"spacing", ⟨"spacing", some "scale"⟩, "Spacing between elements", .spacing, none⟩),
    ("font-size",
      ⟨"font-size", ⟨"typography", some "fontSize"⟩, "Base font size", .typography, none⟩),
    ("font-weight",
      ⟨"font-weight", ⟨"typography", some "fontWeight"⟩, "Base font weight", .typography, none⟩),
    ("mode",
      ⟨"mode", ⟨"mode", none⟩, "Light/dark mode", .mode, none⟩)]

/-- The definition of a canonical name. -/
def definition? (name : String) : Option Definition := definitions.lookup name

/-- The first definition that is bound to a token. -/
def definitionOfToken? (token : String) : Option Definition :=
  (definitions.map (·.2)).find? (·.token == token)

/-- The brand colour, which commands without a target change. -/
def primary : Definition :=
  ⟨"primary", ⟨"colors", some "primary"⟩, "Primary/brand color", .color, some "primary-foreground"⟩

/-- The page background, which commands about a page change. -/
def background : Definition :=
  ⟨"background", ⟨"colors", some "background"⟩, "Page background color", .color, none⟩

/-- The roundness of corners. -/
def radius : Definition :=
  ⟨"radius", ⟨"spacing", some "borderRadius"⟩, "Border radius", .spacing, none⟩

theorem definition?_primary : definition? "primary" = some primary := by decide +kernel

theorem definition?_background : definition? "background" = some background := by decide +kernel

theorem definition?_radius : definition? "radius" = some radius := by decide +kernel

end Restyle.Target
