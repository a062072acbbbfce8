import Restyle.Text.CaseTable
import Restyle.Text.Ranges

/-!
# Letter case

Full case mapping of text.  A capital sigma at the end of a word becomes a final sigma:
a cased character stands before it and none after it, case-ignorable characters between them
being skipped.  `foldChar` is the coarser comparison of pattern letters, which also takes
four characters that resemble ASCII letters for these.
-/

set_option autoImplicit false

namespace Restyle.Text

/-- Skipped when the context of a sigma is looked at. -/
def isCaseIgnorable (c : Char) : Bool := inside caseIgnorableChanges c.toNat

/-- A character with case that is not skipped. -/
def isCased (c : Char) : Bool := inside casedChanges c.toNat

/-- Whether a cased character comes next, case-ignorable ones being skipped. -/
def casedAhead : List Char → Bool
  | [] => false
  | c :: rest => if isCaseIgnorable c then casedAhead rest else isCased c

/-- The lower case of one character, without context. -/
def lowerChar (c : Char) : List Char :=
  let n := c.toNat
  if n < 0x80 then [c.toLower]
  else if n = 0x130 then ['i', Char.ofNat 0x307]
  else [Char.ofNat (mapByRuns lowerRuns n)]

/-- The lower case of a text; `after` says that a cased character precedes it. -/
def lowerFrom (after : Bool) : List Char → List Char
  | [] => []
  | c :: rest =>
    let head :=
      if c.toNat = 0x3A3 then [if after && !casedAhead rest then 'ς' else 'σ'] else lowerChar c
    head ++ lowerFrom (if isCaseIgnorable c then after else isCased c) rest

/-- The lower case of a text. -/
def lowerChars (cs : List Char) : List Char := lowerFrom false cs

/-- The upper case of one character. -/
def upperChar (c : Char) : List Char :=
  let n := c.toNat
  if n < 0x80 then [c.toUpper]
  else match upperExpansions.lookup n with
    | some ns => ns.map Char.ofNat
    | none => [Char.ofNat (mapByRuns upperRuns n)]

/-- The lower case of a text. -/
def lower (s : String) : String := String.ofList (lowerChars s.toList)

/-- The upper case of a text. -/
def upper (s : String) : String := String.ofList (s.toList.flatMap upperChar)

/-- A character as a pattern letter sees it: ASCII capitals, the Kelvin sign, the long s, and
the dotted capital and dotless small i count as the small ASCII letter. -/
def foldChar (c : Char) : Char :=
  let n := c.toNat
  if n < 0x80 then c.toLower
  else if n = 0x212A then 'k'
  else if n = 0x17F then 's'
  else if n = 0x130 || n = 0x131 then 'i'
  else c

/-- A text as a pattern sees it. -/
def fold (s : String) : String := String.ofList (s.toList.map foldChar)

end Restyle.Text
