import Restyle.Text.Case

/-!
# Sound codes

Words that are spelled differently but sound alike share a code of one letter and three
digits.  Consonants of one group have one digit; vowels and h, w, y have none, but separate
two consonants of the same group.
-/

set_option autoImplicit false

namespace Restyle.Matching

open Restyle.Text

/-- The digit of every consonant that has one. -/
def soundGroups : List (Char × Char) := [
    ('b', '1'), ('f', '1'), ('p', '1'), ('v', '1'),
    ('c', '2'), ('g', '2'), ('j', '2'), ('k', '2'), ('q', '2'), ('s', '2'), ('x', '2'), ('z', '2'),
    ('d', '3'), ('t', '3'),
    ('l', '4'),
    ('m', '5'), ('n', '5'),
    ('r', '6')]

/-- The digits of a row of letters after a letter whose digit is `previous`; the digit of the
letter before is not repeated. -/
def soundDigits (previous : Option Char) : List Char → List Char
  | [] => []
  | c :: rest =>
    match soundGroups.lookup c with
    | some g => if previous = some g then soundDigits previous rest else g :: soundDigits (some g) rest
    | none => soundDigits none rest

/-- The letters a to z of a text, in lower case. -/
def soundLetters (cs : List Char) : List Char :=
  (lowerChars cs).filter fun c => 'a' ≤ c && c ≤ 'z'

/-- The sound code of a row of letters. -/
def soundCodeChars : List Char → List Char
  | [] => []
  | c :: rest => (c.toUpper :: soundDigits (soundGroups.lookup c) rest ++ ['0', '0', '0']).take 4

/-- The sound code of a text; empty when the text has no letters. -/
def soundCode (s : String) : String := String.ofList (soundCodeChars (soundLetters s.toList))

/-- Two texts with the same sound code, which is not empty. -/
def soundsLike (a b : String) : Bool :=
  let code := soundCode a
  code != "" && code == soundCode b

end Restyle.Matching
