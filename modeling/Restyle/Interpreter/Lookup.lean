import Restyle.Change.Scale
import Restyle.Matching.Ranking
import Restyle.Settings.Basic
import Restyle.Target.Resolve
import Restyle.Vocabulary.Colors

/-!
# Looking up values

A word for a colour, a corner style or a size is looked up as it is, then as a synonym, and
then compared with every known word.  Only the last way carries a note.

* `lookupColor`, `lookupRadius`, `lookupScale` — the value of a word within the thresholds.
-/

set_option autoImplicit false

namespace Restyle.Interpreter

open Restyle.Change Restyle.Matching Restyle.Target Restyle.Vocabulary

/-- A value that was found for a word. -/
structure Found where
  value : String
  /-- What is said when the word was guessed. -/
  note : Option String := none
  deriving DecidableEq, Repr

/-- A value that is found under the word itself or its canonical word. -/
def findKnown? (values synonyms : Table) (word : String) : Option Found :=
  match values.lookup word with
  | some value => some { value }
  | none => do
    let canonical ← synonyms.meaning? word
    let value ← values.lookup canonical
    some { value }

/-- The value of the known word that is nearest to a word. -/
def findNearest? (values : Table) (limits : Limits) (term word : String) : Option Found := do
  let m ← bestMatch? scoreRounding limits word values.keys
  let value ← values.lookup m.candidate
  some { value, note := if m.exact then none else some (guessNote term m.candidate) }

/-- The stored text of a colour word. -/
def lookupColor (t : Thresholds) (name : String) : Option Found :=
  let word := tableKey name
  (findKnown? colorValues colorWords word).or
    (findNearest? colorValues ⟨t.colorMaxDistance, t.colorMinSimilarity, t.usePhonetic⟩ name word)

/-- The limits for short size words, whose sound says too little. -/
def sizeLimits (t : Thresholds) : Limits := ⟨2, t.radiusMinSimilarity, false⟩

/-- The length of a corner word. -/
def lookupRadius (t : Thresholds) (term : String) : Option Found :=
  let word := tableKey term
  (findKnown? radiusValues radiusWords word).or
    (findNearest? radiusValues (sizeLimits t) term word)

/-- The value of a size word on a scale. -/
def lookupScale (t : Thresholds) (s : Scale) (term : String) : Option Found :=
  match s.valueOfTerm? term with
  | some (_, value) => some { value }
  | none => do
    let m ← bestMatch? scoreRounding (sizeLimits t) (tableKey term) (s.aliases.keys ++ s.values.keys)
    let (_, value) ← s.valueOfTerm? m.candidate
    some { value, note := some (guessNote term m.candidate) }

/-- Whether a word names a corner style. -/
def isRadiusWord (word : String) : Bool :=
  radiusValues.has word || (radiusWords.meaning? word).isSome

/-- Whether a word names a colour. -/
def isColorWord (word : String) : Bool :=
  colorValues.has word || (colorWords.meaning? word).isSome

end Restyle.Interpreter
