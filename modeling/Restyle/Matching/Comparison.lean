import Restyle.Text.Blank
import Restyle.Text.Case
import Restyle.Text.WordChar

/-!
# The form in which terms are compared

A term is compared in lower case, without filler words, without a possessive `'s`, and with
single spaces.
-/

set_option autoImplicit false

namespace Restyle.Matching

open Restyle.Text

/-- Words that say nothing about what a term names. -/
def fillers : List String := ["the", "a", "an", "my", "our", "this"]

/-- A run of word characters, or nothing if it is a filler word. -/
def keepRun (run : List Char) : List Char :=
  if fillers.contains (String.ofList run) then [] else run

/-- Removes every maximal run of word characters that is a filler word.  `pending` is the
current run, last character first. -/
def dropFillersFrom (pending : List Char) : List Char → List Char
  | [] => keepRun pending.reverse
  | c :: rest =>
    if isWordChar c then dropFillersFrom (c :: pending) rest
    else keepRun pending.reverse ++ c :: dropFillersFrom [] rest

/-- Removes filler words. -/
def dropFillers (cs : List Char) : List Char := dropFillersFrom [] cs

/-- Whether a text does not begin with a word character. -/
def atWordEnd : List Char → Bool
  | [] => true
  | c :: _ => !isWordChar c

/-- Removes every `'s` at the end of a word. -/
def dropPossessives : List Char → List Char
  | [] => []
  | '\'' :: 's' :: rest =>
    if atWordEnd rest then dropPossessives rest else '\'' :: 's' :: dropPossessives rest
  | c :: rest => c :: dropPossessives rest

/-- The comparison form of a row of characters. -/
def comparisonChars (cs : List Char) : List Char :=
  trimChars (dropPossessives (squeezeChars (dropFillers (trimChars (lowerChars cs)))))

/-- The comparison form of a term. -/
def comparisonForm (s : String) : String := String.ofList (comparisonChars s.toList)

end Restyle.Matching
