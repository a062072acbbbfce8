import Restyle.Command.Intent
import Restyle.Text.Blank
import Restyle.Text.Case
import Restyle.Vocabulary.Colors
import Restyle.Vocabulary.Sizes

/-!
# Comparatives and value phrases

A comparative such as "rounder" asks for more or less of a property.  A value phrase is one
that can be applied to a target: a colour, a size word, or a comparative.
-/

set_option autoImplicit false

namespace Restyle.Command

open Restyle.Text Restyle.Vocabulary

/-- Stems of comparatives, with the property word and the direction that they ask for. -/
def comparatives : List (String × String × Direction) := [
    ("round", "rounded", .more),
    ("bigg", "large", .more),
    ("larg", "large", .more),
    ("small", "large", .less),
    ("bold", "bold", .more),
    ("light", "light", .more),
    ("dark", "dark", .more),
    ("bright", "bright", .more),
    ("soft", "soft", .more),
    ("sharp", "sharp", .more),
    ("tight", "spacing", .less),
    ("loos", "spacing", .more)]

/-- A text without the given ending. -/
def dropEnding? (ending : String) (s : String) : Option String :=
  let cs := s.toList
  let es := ending.toList
  if es.isSuffixOf cs then some (String.ofList (cs.take (cs.length - es.length))) else none

/-- What a comparative in lower case asks for. -/
def comparativeOf? (word : String) : Option (String × Direction) := do
  comparatives.lookup (← dropEnding? "er" word)

/-- What a comparative asks for, letter case and surrounding white space put aside. -/
def comparative? (word : String) : Option (String × Direction) :=
  comparativeOf? (trim (lower word))

/-- Whether a phrase in lower case can be applied as a value. -/
def isValuePhrase (phrase : String) : Bool :=
  colorWords.has phrase || radiusWords.has phrase || spacingWords.has phrase ||
    fontWeightWords.has phrase || (comparativeOf? phrase).isSome

/-- A target without a leading article. -/
def dropArticle (target : String) : String :=
  match target.toList with
  | 't' :: 'h' :: 'e' :: c :: rest =>
    if isBlank c then String.ofList (rest.dropWhile isBlank) else target
  | _ => target

/-- The form of a target: lower case, trimmed, without a leading article. -/
def normalizeTarget (target : String) : String := dropArticle (trim (lower target))

/-- The form of a value: lower case, trimmed. -/
def normalizeValue (value : String) : String := trim (lower value)

end Restyle.Command
