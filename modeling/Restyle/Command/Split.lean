import Restyle.Command.Comparative
import Restyle.Command.Phrase

/-!
# Splitting a phrase into target and value

"primary color green" names a target and a value without saying where one ends.  An explicit
"to" or "to be" decides; otherwise the shortest target is taken after which a value phrase
remains, and a target of one word when there is none.  A leading "more" or "less" of the value
becomes the direction.
-/

set_option autoImplicit false

namespace Restyle.Command

open Restyle.Vocabulary

/-- A phrase cut into target, direction and value. -/
structure Split where
  target : Phrase
  direction : Option Direction
  value : Phrase
  deriving DecidableEq, Repr

namespace Split

/-- Cuts "more" or "less" off the front of a value of several words. -/
def takeDirection : Phrase → Option Direction × Phrase
  | w :: v :: rest =>
    if w.lowered = "more" then (some .more, v :: rest)
    else if w.lowered = "less" then (some .less, v :: rest)
    else (none, w :: v :: rest)
  | ws => (none, ws)

/-- The cut after `k` words. -/
def atWord (ws : Phrase) (k : Nat) : Split :=
  let (direction, value) := takeDirection (ws.drop k)
  ⟨ws.take k, direction, value⟩

/-- Whether the value of a cut is one that can be applied. -/
def hasValuePhrase (s : Split) : Bool := isValuePhrase s.value.lowered

/-- The cut of a phrase without an explicit "to". -/
def byValue (ws : Phrase) : Split :=
  let cuts := (List.range (ws.length - 1)).map fun k => atWord ws (k + 1)
  (cuts.find? hasValuePhrase).getD (atWord ws 1)

/-- Cuts a phrase of at least two words. -/
def ofPhrase (ws : Phrase) : Split :=
  match Phrase.splitAround? [["to", "be"], ["to"]] ws with
  | some (target, value) => ⟨target, none, value⟩
  | none => byValue ws

end Split

end Restyle.Command
