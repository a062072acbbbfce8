import Restyle.Command.Split
import Restyle.Text.Digit
import Restyle.Vocabulary.Presets

/-!
# The grammar of commands

An ordered list of rules, from the most to the least specific; the first rule that reads a
phrase decides.  The families are undo and redo, the mode, presets, the layout, explicit style
commands, relative style commands, visibility, and colours on their own.
-/

set_option autoImplicit false

namespace Restyle.Command

open Restyle.Text Restyle.Vocabulary

/-- A rule reads a phrase, or leaves it to the rules after it.  A reading fails when a word
that stands in the place of a direction is none. -/
abbrev Rule := Phrase → Option (Except DirectionError Draft)

/-! ## Fields of style commands -/

/-- Words that refer to the selection. -/
def contextualWords : List String := ["it", "this", "that", "these", "them"]

/-- A style command with target and value in lower case.  A comparative value becomes a
direction, and a word for the selection the contextual target. -/
def styleDraft (target value : String) (direction : Option Direction) (confidence : Rat) : Draft :=
  let target := dropArticle (trim target)
  let value := trim value
  let (value, direction) : String × Option Direction := match direction with
    | some d => (value, some d)
    | none => match comparativeOf? value with
      | some (word, d) => (word, some d)
      | none => (value, none)
  if contextualWords.contains target then
    { kind := .style, confidence, target := some contextualTarget, value := some value, direction,
      scope := some .selected }
  else { kind := .style, confidence, target := some target, value := some value, direction }

/-- A style command about the selection. -/
def contextualDraft (value : String) (direction : Option Direction) (confidence : Rat) : Draft :=
  { kind := .style, confidence, target := some contextualTarget, value := some value, direction,
    scope := some .selected }

/-- A style command from a phrase that holds both target and value. -/
def splitDraft (confidence : Rat) (ws : Phrase) : Draft :=
  let s := Split.ofPhrase ws
  styleDraft s.target.lowered s.value.lowered s.direction confidence

/-- A style command from a target and a value. -/
def pairDraft (confidence : Rat) (target value : Phrase) : Draft :=
  styleDraft target.lowered value.lowered none confidence

/-- A reading that cannot fail. -/
def reading (rule : Phrase → Option Draft) : Rule := fun ws => (rule ws).map .ok

/-! ## Undo and redo -/

/-- Taking the last change back. -/
def undo (ws : Phrase) : Option Draft :=
  if ["undo", "go back", "revert", "take that back", "oops"].contains ws.folded then
    some { kind := .undo, confidence := 1 }
  else none

/-- Making a change again. -/
def redo (ws : Phrase) : Option Draft :=
  if ["redo", "redo that", "do it again"].contains ws.folded then
    some { kind := .redo, confidence := 1 }
  else none

/-! ## Mode -/

/-- One of some words, alone, with one of some endings attached, or followed by it. -/
def withEnding? (stems endings : List String) (ws : Phrase) : Option String :=
  match ws with
  | [w] =>
    if stems.contains w.folded then some w.lowered
    else endings.findSome? fun e => do
      if stems.contains (← dropEnding? e w.folded) then dropEnding? e w.lowered else none
  | [w, e] => if stems.contains w.folded && endings.contains e.folded then some w.lowered else none
  | _ => none

/-- Switching to a mode by name. -/
def modeByName (ws : Phrase) : Option Draft :=
  (withEnding? ["dark", "light", "night", "day"] ["mode", "theme"]
    (Phrase.skipping [["switch", "to"], ["enable"], ["turn", "on"], ["go"]] ws)).map fun value =>
      { kind := .mode, confidence := 95 / 100, value := some value }

/-- Toggling the mode. -/
def modeToggle (ws : Phrase) : Option Draft := do
  let rest ← Phrase.afterAny? [["toggle"], ["switch"], ["flip"]] ws
  if ["mode", "theme", "darkmode", "dark mode", "lightmode", "light mode"].contains
      (Phrase.skipping [["the"]] rest).folded then
    some { kind := .mode, confidence := 95 / 100, value := some "toggle" }
  else none

/-- Asking for a mode by an adjective. -/
def modeByAdjective (ws : Phrase) : Option Draft :=
  match Phrase.skipping [["make", "it"]] ws with
  | [w] =>
    if ["dark", "light", "darker", "lighter", "dim", "bright"].contains w.folded then
      let value :=
        if w.lowered = "darker" || w.lowered = "dim" then "dark"
        else if w.lowered = "lighter" || w.lowered = "bright" then "light"
        else w.lowered
      some { kind := .mode, confidence := 85 / 100, value := some value }
    else none
  | _ => none

/-! ## Presets -/

/-- A preset command for a phrase in lower case. -/
def presetDraft (confidence : Rat) (phrase : String) : Draft :=
  { kind := .preset, confidence, value := some ((presetPhrases.meaning? phrase).getD phrase) }

/-- Adjectives that name a preset. -/
def presetAdjectives : List String := [
    "pop", "modern", "professional", "playful", "fun", "friendly", "minimal", "clean", "simple",
    "bold", "calm", "elegant", "serious", "energetic", "vibrant"]

/-- Asking for a preset by an adjective. -/
def presetByAdjective (ws : Phrase) : Option Draft :=
  match Phrase.skipping [["look"]] (Phrase.skipping [["make", "it"]] ws) with
  | [w] => if presetAdjectives.contains w.folded then some (presetDraft (85 / 100) w.lowered) else none
  | [w, e] =>
    if presetAdjectives.contains w.folded && e.folded == "looking" then
      some (presetDraft (85 / 100) w.lowered)
    else none
  | _ => none

/-- Asking for a preset by its phrase. -/
def presetByPhrase (ws : Phrase) : Option Draft :=
  if ["make it pop", "tone it down", "tone down", "soften", "sharpen", "modernize",
      "freshen up"].contains ws.folded then
    some (presetDraft (90 / 100) ws.lowered)
  else none

/-! ## Layout -/

/-- A layout command. -/
def layoutDraft (confidence : Rat) (value : String) : Draft :=
  { kind := .layout, confidence, target := some "layout", value := some value }

/-- Openings of layout commands. -/
def makeIt : List (List String) := [["make", "it"], ["make"]]

/-- Numbers of columns in words. -/
def numberWords : List (String × String) :=
  [("one", "1"), ("single", "1"), ("two", "2"), ("three", "3"), ("four", "4")]

/-- A number of columns. -/
def columns (ws : Phrase) : Option Draft :=
  match Phrase.skipping makeIt ws with
  | [w, c] =>
    let counts := (numberWords.lookup w.folded).isSome ||
      (w.lowered != "" && w.lowered.toList.all isDigit)
    if counts && ["column", "columns"].contains c.folded then
      some (layoutDraft (90 / 100) ((numberWords.lookup w.lowered).getD w.lowered ++ "_column"))
    else none
  | _ => none

/-- The side of the sidebar. -/
def sideOf? (w : Word) : Option Draft :=
  if ["left", "right"].contains w.folded then
    some (layoutDraft (90 / 100) ("sidebar_" ++ w.lowered))
  else none

/-- A sidebar on a side. -/
def sidebarOn (ws : Phrase) : Option Draft := do
  let rest := Phrase.skipping [["a"]] (Phrase.skipping [["add"]] ws)
  let rest ← Phrase.after? ["sidebar"] rest
  match Phrase.skipping [["on", "the"], ["on"]] rest with
  | [w] => sideOf? w
  | _ => none

/-- A left or right sidebar. -/
def sidebarSide (ws : Phrase) : Option Draft :=
  match ws with
  | [w, s] => if s.folded == "sidebar" then sideOf? w else none
  | _ => none

/-- Two columns, said otherwise. -/
def sideBySide (ws : Phrase) : Option Draft :=
  if (Phrase.skipping makeIt ws).folded == "side by side" then
    some (layoutDraft (85 / 100) "2_column")
  else none

/-- One column, said otherwise. -/
def stacked (ws : Phrase) : Option Draft :=
  if (Phrase.skipping makeIt ws).folded == "stacked" then
    some (layoutDraft (85 / 100) "1_column")
  else none

/-- A grid or a dashboard. -/
def grid (ws : Phrase) : Option Draft :=
  (withEnding? ["grid", "dashboard"] ["layout"]
    (Phrase.skipping [["a"]] (Phrase.skipping makeIt ws))).map (layoutDraft (85 / 100))

/-! ## Explicit style commands -/

/-- "make the T V" -/
def makeTarget (ws : Phrase) : Option Draft := do
  let rest ← Phrase.after? ["make"] ws
  (Phrase.afterArticle? Phrase.isPair rest).map (splitDraft (90 / 100))

/-- "change the T to V" and "set the T to V", by the verb. -/
def verbTo (verb : String) (ws : Phrase) : Option Draft := do
  let rest ← Phrase.after? [verb] ws
  let (target, value) ← (Phrase.choices [["the"]] rest).findSome? (Phrase.splitAround? [["to"]])
  some (pairDraft (90 / 100) target value)

/-- At least two words, the first of which is not an indefinite article. -/
def isWish (ws : Phrase) : Bool :=
  ws.isPair && !(match ws with
    | w :: _ => w.folded == "a" || w.folded == "an"
    | [] => false)

/-- "I want the T V" -/
def wish (ws : Phrase) : Option Draft := do
  let rest ← Phrase.afterAny? [["i'd"], ["i", "would"], ["i"]] ws
  let rest ← Phrase.afterAny? [["want"], ["like"], ["prefer"]] rest
  (Phrase.afterArticle? isWish rest).map (splitDraft (85 / 100))

/-- "please make the T V" -/
def request (ws : Phrase) : Option Draft := do
  let rest ← Phrase.afterAny? [["can", "you"], ["could", "you"], ["please"]] ws
  let rest ← Phrase.afterAny? [["make"], ["change"], ["set"]] rest
  (Phrase.afterArticle? Phrase.isPair rest).map (splitDraft (85 / 100))

/-- "the T should be V" -/
def shouldBe (ws : Phrase) : Option Draft := do
  let (target, value) ←
    (Phrase.choices [["the"]] ws).findSome? (Phrase.splitAround? [["should", "be"]])
  some (pairDraft (80 / 100) target value)

/-- "use V for the T" -/
def useFor (ws : Phrase) : Option Draft := do
  let rest ← Phrase.after? ["use"] ws
  let (value, target) ← Phrase.splitAround? [["for"], ["on"], ["as"]] rest
  (Phrase.afterArticle? Phrase.isPresent target).map fun target => pairDraft (85 / 100) target value

/-- The parts of a text before and after its first equals sign that is not its first
character, if something stands after that sign. -/
def splitAtEquals? (cs : List Char) : Option (List Char × List Char) :=
  match cs with
  | [] => none
  | c :: rest =>
    match rest.dropWhile (· != '=') with
    | _ :: v :: after => some (c :: rest.takeWhile (· != '='), v :: after)
    | _ => none

/-- "T = V" -/
def assignment (ws : Phrase) : Option Draft :=
  (splitAtEquals? ws.lowered.toList).map fun (target, value) =>
    styleDraft (String.ofList target) (String.ofList value) none (80 / 100)

/-! ## Relative style commands -/

/-- "more V" and "less V" -/
def moreOrLess (direction : Direction) (ws : Phrase) : Option Draft := do
  let rest ← Phrase.after? [direction.name] ws
  if rest.isPresent then some (contextualDraft rest.lowered (some direction) (85 / 100)) else none

/-- "a bit more V" -/
def aBit : Rule := fun ws => do
  let rest ← Phrase.afterAny? [["bit"], ["little"], ["tad"]] (Phrase.skipping [["a"]] ws)
  match rest with
  | w :: v :: value =>
    if ["more", "less"].contains w.folded then
      some ((Direction.ofWord w.lowered).map fun direction =>
        contextualDraft (Phrase.lowered (v :: value)) (some direction) (80 / 100))
    else none
  | _ => none

/-- A comparative on its own. -/
def comparativeAlone (ws : Phrase) : Option Draft :=
  match ws with
  | [w] => (comparativeOf? w.lowered).map fun (value, direction) =>
      contextualDraft value (some direction) (75 / 100)
  | _ => none

/-- A comparative with a target. -/
def comparativeTarget (ws : Phrase) : Option Draft :=
  match ws with
  | w :: rest => do
    let (value, direction) ← comparativeOf? w.lowered
    let target ← Phrase.afterArticle? Phrase.isPresent rest
    some {
      kind := .style
      confidence := 80 / 100
      target := some (dropArticle target.lowered)
      value := some value
      direction := some direction }
  | [] => none

/-! ## Visibility -/

/-- A visibility command with a target. -/
def visibilityDraft (value : String) (confidence : Rat) (target : Phrase) : Draft :=
  { kind := .visibility, confidence, target := some (dropArticle target.lowered),
    value := some value }

/-- A visibility command, by its openings and the articles that may follow. -/
def visibility (value : String) (confidence : Rat) (openings articles : List (List String))
    (ws : Phrase) : Option Draft := do
  let rest ← Phrase.afterAny? openings ws
  ((Phrase.choices articles rest).find? Phrase.isPresent).map (visibilityDraft value confidence)

/-- "hide the T" -/
def hide : Phrase → Option Draft :=
  visibility "hidden" (90 / 100) [["hide"], ["remove"], ["delete"], ["get", "rid", "of"]] [["the"]]

/-- "show the T" -/
def display : Phrase → Option Draft :=
  visibility "visible" (90 / 100) [["show"], ["add"], ["display"], ["bring", "back"]] [["the"]]

/-- "I don't need the T" -/
def dislike : Phrase → Option Draft :=
  visibility "hidden" (85 / 100)
    (["don't", "dont"].flatMap fun d => ["need", "want", "like"].map fun v => ["i", d, v]) [["the"]]

/-- "I need a T" -/
def need : Phrase → Option Draft :=
  visibility "visible" (80 / 100) [["i", "need"], ["i", "want"]] [["a"], ["an"], ["the"]]

/-! ## Colours on their own -/

/-- Colours that have shades. -/
def basicColors : List String := [
    "red", "orange", "yellow", "green", "blue", "purple", "pink", "teal", "cyan", "indigo",
    "violet", "gray", "grey"]

/-- Colours that are understood on their own. -/
def bareColors : List String :=
  basicColors ++ ["white", "black", "navy", "emerald", "rose", "amber", "lime", "sky", "slate"]

/-- A plain colour. -/
def bareColor (ws : Phrase) : Option Draft :=
  match ws with
  | [w] => if bareColors.contains w.folded then some (contextualDraft w.lowered none (60 / 100)) else none
  | _ => none

/-- A light or dark shade. -/
def shadedColor (ws : Phrase) : Option Draft :=
  match ws with
  | [s, w] =>
    if ["light", "dark"].contains s.folded && basicColors.contains w.folded then
      some (contextualDraft (s.lowered ++ "-" ++ w.lowered) none (65 / 100))
    else none
  | _ => none

/-- Any other word for a colour. -/
def knownColor (ws : Phrase) : Option Draft :=
  if colorWords.has ws.lowered then some (contextualDraft ws.lowered none (55 / 100)) else none

/-! ## All rules -/

/-- The rules, in order. -/
def rules : List Rule := [
    reading undo,
    reading redo,
    reading modeByName,
    reading modeToggle,
    reading modeByAdjective,
    reading presetByAdjective,
    reading presetByPhrase,
    reading columns,
    reading sidebarOn,
    reading sidebarSide,
    reading sideBySide,
    reading stacked,
    reading grid,
    reading makeTarget,
    reading (verbTo "change"),
    reading (verbTo "set"),
    reading wish,
    reading request,
    reading shouldBe,
    reading useFor,
    reading assignment,
    reading (moreOrLess .more),
    reading (moreOrLess .less),
    aBit,
    reading comparativeAlone,
    reading comparativeTarget,
    reading hide,
    reading display,
    reading dislike,
    reading need,
    reading bareColor,
    reading shadedColor,
    reading knownColor]

end Restyle.Command
