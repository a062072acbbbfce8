import Restyle.Command.Comparative
import Restyle.Matching.Comparison
import Restyle.Matching.Ranking
import Restyle.Target.Component
import Restyle.Target.Selection
import Restyle.Vocabulary.Targets

/-!
# Binding a command to a token

The words for a target are looked up as they are, then without a final "color", and then
compared with every known name.  What is not spelled exactly carries a note.  A command about
the selection always finds a token.

* `resolveTerm?` — the definition of a term, with the note of a guess.
* `resolve` — the binding of an intent.
-/

set_option autoImplicit false

namespace Restyle.Target

open Restyle.Command Restyle.Matching Restyle.Text Restyle.Vocabulary

/-! ## Terms -/

/-- A definition that was found for a term. -/
structure Finding where
  definition : Definition
  /-- What is said when the term was not spelled exactly. -/
  note : Option String
  deriving DecidableEq, Repr

/-- The note of a guess. -/
def guessNote (term meaning : String) : String :=
  "Interpreted \"" ++ term ++ "\" as \"" ++ meaning ++ "\""

/-- The finding for a form of a term that is a known name: the note is given for a common
misspelling. -/
def findExact? (term form : String) : Option Finding :=
  let bySynonym := do
    let name ← targetWords.meaning? form
    let definition ← definition? name
    some (name, definition)
  match bySynonym with
  | some (name, definition) =>
    some ⟨definition,
      if targetMisspellings.has (tableKey form) then some (guessNote term name) else none⟩
  | none => (definition? form).map fun definition => ⟨definition, none⟩

/-- The forms under which a term in comparison form is looked up: as it is, and without a
final "color". -/
def lookupForms (form : String) : List String :=
  match dropEnding? " color" form with
  | some shorter => [form, trim shorter]
  | none => [form]

/-- The finding for the known name that is nearest to a form of a term. -/
def findNear? (ρ : Rounding) (limits : Limits) (term form : String) : Option Finding := do
  let m ← bestMatch? ρ limits form targetWords.keys
  let name := (targetWords.meaning? m.candidate).getD m.candidate
  let definition ← definition? name
  some ⟨definition, if m.exact then none else some (guessNote term name)⟩

/-- The finding for a term. -/
def resolveTerm? (ρ : Rounding) (limits : Limits) (term : String) : Option Finding :=
  let form := comparisonForm term
  if form = "" then none
  else match (lookupForms form).findSome? (findExact? term) with
    | some finding => some finding
    | none => findNear? ρ limits term form

/-- The names of the light and dark mode as a target. -/
def isModeTarget (target : String) : Bool :=
  ["mode", "theme", "dark mode", "light mode", "color mode"].contains (tableKey target)

/-! ## Intents -/

/-- What a binding applies to. -/
inductive Reach where
  | global
  /-- The selected component. -/
  | component (id : String)
  deriving DecidableEq, Repr

/-- The token that a command changes. -/
structure Binding where
  definition : Definition
  reach : Reach := .global
  note : Option String := none
  deriving DecidableEq, Repr

/-- A target that nothing is known about. -/
structure UnknownTarget where
  term : String
  deriving DecidableEq, Repr

/-- The binding of a command about the selection. -/
def resolveSelection (selection : Option Selection) : Binding :=
  match shapeOf selection with
  | .component kind id =>
    { definition := (definitionOfToken? (tokenOfComponent kind)).getD primary
      reach := .component id }
  | .page => { definition := background }
  | .other => { definition := primary }
  | .none => { definition := primary }

/-- Whether a selection is a component. -/
def isComponent (selection : Option Selection) : Bool :=
  match shapeOf selection with
  | .component _ _ => true
  | _ => false

/-- The binding of an intent. -/
def resolve (ρ : Rounding) (limits : Limits) (intent : Intent) (selection : Option Selection) :
    Except UnknownTarget Binding :=
  let target := tableKey (intent.target.getD "")
  if intent.isContextual then .ok (resolveSelection selection)
  else if target = "" then
    if isComponent selection then .ok (resolveSelection selection)
    else .ok { definition := primary }
  else match resolveTerm? ρ limits target with
    | some finding => .ok { definition := finding.definition, note := finding.note }
    | none => .error ⟨target⟩

end Restyle.Target
