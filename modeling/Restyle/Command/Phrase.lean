import Restyle.Text.Blank
import Restyle.Text.Case

/-!
# Phrases

A command is read as a phrase, a list of words.  Every word is kept in two forms: in lower
case, which is what a rule takes out of the command, and folded, which is what a pattern is
compared with.  For ASCII text the two agree.

The functions below are the parts that the rules of the grammar are made of: fixed words,
optional words, and a pattern between two parts of any length, the first as short as possible.
-/

set_option autoImplicit false

namespace Restyle.Command

open Restyle.Text

/-- A word of a command. -/
structure Word where
  lowered : String
  folded : String
  deriving DecidableEq, Repr

/-- A word as it is written. -/
def Word.ofText (s : String) : Word := ⟨lower s, fold s⟩

/-- The words of a command. -/
abbrev Phrase := List Word

namespace Phrase

/-- The phrase of a text. -/
def ofText (s : String) : Phrase := (words s).map Word.ofText

/-- A phrase in lower case, as text. -/
def lowered (ws : Phrase) : String := unwords (ws.map Word.lowered)

/-- A phrase as patterns see it, as text. -/
def folded (ws : Phrase) : String := unwords (ws.map Word.folded)

/-! ## Fixed and optional words -/

/-- The phrase after the given words. -/
def after? : List String → Phrase → Option Phrase
  | [], ws => some ws
  | _ :: _, [] => none
  | p :: ps, w :: ws => if w.folded == p then after? ps ws else none

/-- The phrase after the first of several openings that it begins with. -/
def afterAny? (openings : List (List String)) (ws : Phrase) : Option Phrase :=
  openings.findSome? fun o => after? o ws

/-- The phrase without an optional opening. -/
def skipping (openings : List (List String)) (ws : Phrase) : Phrase :=
  (afterAny? openings ws).getD ws

/-- The ways to read a phrase with an optional opening: first without it, then as it is. -/
def choices (openings : List (List String)) (ws : Phrase) : List Phrase :=
  openings.filterMap (fun o => after? o ws) ++ [ws]

/-- A phrase without a leading article, if words remain that meet the condition; else the
phrase itself, if it does. -/
def afterArticle? (ok : Phrase → Bool) (ws : Phrase) : Option Phrase :=
  (choices [["the"]] ws).find? ok

/-- At least one word. -/
def isPresent (ws : Phrase) : Bool := !ws.isEmpty

/-- At least two words. -/
def isPair (ws : Phrase) : Bool := 2 ≤ ws.length

/-! ## A pattern in the middle -/

/-- Splits a phrase at the first place where one of the given middles stands between at least
one word on either side; `before` are the words already passed. -/
def splitAroundFrom (middles : List (List String)) (before : Phrase) :
    Phrase → Option (Phrase × Phrase)
  | [] => none
  | w :: rest =>
    let before := before ++ [w]
    match (middles.filterMap fun m => after? m rest).find? isPresent with
    | some right => some (before, right)
    | none => splitAroundFrom middles before rest

/-- Splits a phrase around one of the given middles, the first part being as short as
possible. -/
def splitAround? (middles : List (List String)) (ws : Phrase) : Option (Phrase × Phrase) :=
  splitAroundFrom middles [] ws

end Phrase

end Restyle.Command
