import Restyle.Command.Rules
import Restyle.Vocabulary.Known

/-!
# Understanding a command

A command that is a preset's phrase is that preset; otherwise the first rule that reads it
decides.  When none does, two words, or three with "to" or "is" in the middle, are taken for a
target and a value if one of them means something.

* `parse` — the intent of a text.  It fails only where a word in the place of a direction is
  none.
-/

set_option autoImplicit false

namespace Restyle.Command

open Restyle.Vocabulary

/-- A command that was not understood. -/
def unknownDraft : Draft := { kind := .unknown, confidence := 0 }

/-- A guess at a target and a value. -/
def guessDraft (confidence : Rat) (target value : Word) : Draft :=
  if isKnownWord target.lowered || isKnownWord value.lowered then
    { kind := .style, confidence, target := some (dropArticle target.lowered),
      value := some value.lowered }
  else unknownDraft

/-- The reading of a phrase that no rule reads. -/
def guess (ws : Phrase) : Draft :=
  match ws with
  | [target, value] => guessDraft (40 / 100) target value
  | [target, middle, value] =>
    if middle.lowered = "to" || middle.lowered = "is" then guessDraft (50 / 100) target value
    else unknownDraft
  | _ => unknownDraft

/-- The reading of a phrase. -/
def readPhrase (ws : Phrase) : Except DirectionError Draft :=
  if ws.isEmpty then .ok unknownDraft
  else match presetPhrases.meaning? ws.lowered with
    | some preset => .ok { kind := .preset, confidence := 95 / 100, value := some preset }
    | none => (rules.findSome? fun rule => rule ws).getD (.ok (guess ws))

/-- The intent of a text. -/
def parse (text : String) : Except DirectionError Intent :=
  (readPhrase (Phrase.ofText text)).map fun draft => { draft with raw := text }

end Restyle.Command
