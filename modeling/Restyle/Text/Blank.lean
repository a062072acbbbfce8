/-!
# White space

White space is the 29 characters that Unicode marks as such or that separate records in
ASCII.  This module trims, squeezes and splits text at it.  All functions exist on lists of
characters, where they are reasoned about, and on strings.

* `trimChars` — removes white space at both ends.
* `wordChars` — the maximal runs of other characters, in order.
* `squeezeChars` — replaces every run of white space by one space.
-/

set_option autoImplicit false

namespace Restyle.Text

/-- White space. -/
def isBlank (c : Char) : Bool :=
  let n := c.toNat
  (9 ≤ n && n ≤ 13) || (28 ≤ n && n ≤ 32) || n == 0x85 || n == 0xA0 || n == 0x1680 ||
    (0x2000 ≤ n && n ≤ 0x200A) || n == 0x2028 || n == 0x2029 || n == 0x202F || n == 0x205F ||
    n == 0x3000

/-- Drops white space at the end. -/
def trimEndChars (cs : List Char) : List Char := (cs.reverse.dropWhile isBlank).reverse

/-- Drops white space at both ends. -/
def trimChars (cs : List Char) : List Char := trimEndChars (cs.dropWhile isBlank)

/-- Whether the text begins with a character that is not white space. -/
def startsWord : List Char → Bool
  | [] => false
  | c :: _ => !isBlank c

/-- The maximal runs of characters that are not white space. -/
def wordChars : List Char → List (List Char)
  | [] => []
  | c :: rest =>
    if isBlank c then wordChars rest
    else match startsWord rest, wordChars rest with
      | true, w :: ws => (c :: w) :: ws
      | _, ws => [c] :: ws

/-- Every run of white space becomes one space. -/
def squeezeChars : List Char → List Char
  | [] => []
  | c :: rest =>
    if isBlank c then
      match rest with
      | [] => [' ']
      | d :: _ => if isBlank d then squeezeChars rest else ' ' :: squeezeChars rest
    else c :: squeezeChars rest

/-- Text without white space at its ends. -/
def trim (s : String) : String := String.ofList (trimChars s.toList)

/-- The words of a text. -/
def words (s : String) : List String := (wordChars s.toList).map String.ofList

/-- Words written with one space between two of them. -/
def unwords (ws : List String) : String := String.intercalate " " ws

end Restyle.Text
