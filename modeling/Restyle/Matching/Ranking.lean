import Restyle.Matching.Distance
import Restyle.Matching.Sound
import Restyle.Numeric.Binary64
import Restyle.Text.Blank

/-!
# Ranking candidates

Three signals tell how near a candidate is to a text: few edits, the same sound, and the text
being the beginning of the candidate.

* `bestMatch?` — the earliest candidate with the greatest score.
* `closeMatches` — the candidates worth suggesting, best first, equal scores in given order.

Scores are numbers of a grid, given by its rounding: the program uses binary64.
-/

set_option autoImplicit false

namespace Restyle.Matching

open Restyle.Text

/-- The rounding of all scores that the program shows or compares. -/
def scoreRounding : Rounding := Numeric.nearest

/-- A candidate with its score. -/
structure Match where
  candidate : String
  score : Rat
  /-- The texts agree, letter case not counting. -/
  exact : Bool := false
  /-- The score comes from the same sound. -/
  phonetic : Bool := false
  deriving DecidableEq, Repr

/-- How much a text may differ from a candidate. -/
structure Limits where
  maxDistance : Int := 2
  minSimilarity : Rat := 3 / 5
  usePhonetic : Bool := true
  deriving DecidableEq, Repr

/-- The score of a candidate that sounds like the text. -/
def soundScore : Rat := 17 / 20

/-- The score of a candidate that begins with the text. -/
def prefixScore : Rat := 9 / 10

/-- The least score of a suggestion that sounds like the text. -/
def suggestionFloor : Rat := 7 / 10

/-- The scores that a candidate earns, in the order in which they are looked at; `text` is in
lower case. -/
def signals (ρ : Rounding) (limits : Limits) (text candidate : String) : List Match :=
  let name := lower candidate
  (if (editDistance text name : Int) ≤ limits.maxDistance then
    [{ candidate, score := similarity ρ text name }] else []) ++
  (if limits.usePhonetic && soundsLike text name then
    [{ candidate, score := ρ soundScore, phonetic := true }] else []) ++
  (if 3 ≤ text.length && text.toList.isPrefixOf name.toList then
    [{ candidate, score := ρ prefixScore }] else [])

/-- The better of two matches, the earlier one if they are equally good. -/
def better (best : Option Match) (m : Match) : Option Match :=
  match best with
  | none => some m
  | some b => if b.score < m.score then some m else some b

/-- The best candidate for a text: the first that agrees with it, else the earliest with the
greatest score, if that is high enough. -/
def bestMatch? (ρ : Rounding) (limits : Limits) (text : String) (candidates : List String) :
    Option Match :=
  let text := trim (lower text)
  match candidates.find? fun c => lower c == text with
  | some candidate => some { candidate, score := 1, exact := true }
  | none =>
    match (candidates.flatMap (signals ρ limits text)).foldl better none with
    | some best => if best.score < ρ limits.minSimilarity then none else some best
    | none => none

/-- A candidate as a suggestion, if it is similar enough or sounds like the text. -/
def suggestion? (ρ : Rounding) (minSimilarity : Rat) (text candidate : String) : Option Match :=
  let score := similarity ρ text (lower candidate)
  let phonetic := soundsLike text candidate
  if ρ minSimilarity ≤ score || phonetic then
    some {
      candidate
      score := if phonetic && decide (score < ρ suggestionFloor) then ρ suggestionFloor else score
      exact := score == 1
      phonetic }
  else none

/-- The suggestions for a text, best first; a negative number of results leaves that many off
the end. -/
def closeMatches (ρ : Rounding) (text : String) (candidates : List String)
    (maxResults : Int) (minSimilarity : Rat) : List Match :=
  let text := trim (lower text)
  leading maxResults
    ((candidates.filterMap (suggestion? ρ minSimilarity text)).mergeSort
      fun a b => decide (b.score ≤ a.score))

end Restyle.Matching
