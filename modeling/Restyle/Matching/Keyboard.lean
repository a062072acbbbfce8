import Restyle.Text.Case

/-!
# Slips to a neighbouring key

A slip replaces one character by that of a neighbouring key, letter case not counting.
-/

set_option autoImplicit false

namespace Restyle.Matching

open Restyle.Text

/-- The neighbours of every letter key. -/
def keyNeighbours : List (Char × String) := [
    ('a', "qwsz"), ('b', "vghn"), ('c', "xdfv"), ('d', "serfcx"), ('e', "wsdr"),
    ('f', "drtgvc"), ('g', "ftyhbv"), ('h', "gyujnb"), ('i', "ujko"), ('j', "huikmn"),
    ('k', "jiolm"), ('l', "kop"), ('m', "njk"), ('n', "bhjm"), ('o', "iklp"),
    ('p', "ol"), ('q', "wa"), ('r', "edft"), ('s', "awedxz"), ('t', "rfgy"),
    ('u', "yhji"), ('v', "cfgb"), ('w', "qase"), ('x', "zsdc"), ('y', "tghu"),
    ('z', "asx")]

/-- Whether one key is listed as a neighbour of the other. -/
def areNeighbours (key other : Char) : Bool :=
  match keyNeighbours.lookup key with
  | some keys => keys.toList.contains other
  | none => false

/-- The pairs of different characters at the same place of two texts. -/
def differences (xs ys : List Char) : List (Char × Char) :=
  (xs.zip ys).filter fun (x, y) => x != y

/-- Whether two texts of one length differ in one place, and there by neighbouring keys. -/
def isKeyboardSlip (meant typed : String) : Bool :=
  let xs := lowerChars meant.toList
  let ys := lowerChars typed.toList
  xs.length == ys.length &&
    match differences xs ys with
    | [(x, y)] => areNeighbours x y
    | _ => false

end Restyle.Matching
