import Restyle.Color.Hsl

/-!
# Colour notations

Four notations of one colour: the stored triple, `hsl(…)`, `#RGB` or `#RRGGBB`, and
`rgb(…)` or `rgba(…)`.  Letters count in either case.

* `isNotation` — whether a text is exactly one notation.
* `normalize` — the stored form.  A triple stays as it is written; an `hsl(…)` anywhere in the
  text gives its three components as they are written; a hexadecimal colour, or red, green and
  blue anywhere in the text, are converted and rounded; any other text is only trimmed.
-/

set_option autoImplicit false

namespace Restyle.Color

open Restyle.Numeric Restyle.Text

/-! ## Reading the notations -/

/-- The text after a word, letters counting in either case. -/
def expectWord? : List Char → List Char → Option (List Char)
  | [], cs => some cs
  | _ :: _, [] => none
  | w :: ws, c :: cs => if foldChar c == w then expectWord? ws cs else none

/-- Drops white space around an optional comma. -/
def skipSeparator (cs : List Char) : List Char :=
  match skipBlanks cs with
  | ',' :: rest => skipBlanks rest
  | rest => rest

/-- The text after white space, a comma and white space. -/
def expectComma? (cs : List Char) : Option (List Char) :=
  (expect? ',' (skipBlanks cs)).map skipBlanks

/-- The components of an `hsl(…)` at the front of a text, and what follows it.  Without a
separator the first component leaves as few digits to the second as it can. -/
def hslFunctionAt? (cs : List Char) : Option ((Component × Component × Component) × List Char) := do
  let rest ← expectWord? ['h', 's', 'l', '('] cs
  (Component.readings (skipBlanks rest)).findSome? fun (h, rest) =>
    (Component.readings (skipSeparator rest)).findSome? fun (s, rest) => do
      let rest ← expect? '%' rest
      (Component.readings (skipSeparator rest)).findSome? fun (l, rest) => do
        let rest ← expect? '%' rest
        let rest ← expect? ')' (skipBlanks rest)
        some ((h, s, l), rest)

/-- A row of at least one digit at the front of a text, and what follows it. -/
def digitsAt? (cs : List Char) : Option (List Char × List Char) :=
  let digits := cs.takeWhile isDigit
  if digits.isEmpty then none else some (digits, cs.dropWhile isDigit)

/-- Red, green and blue of an `rgb(…` or `rgba(…` at the front of a text, and what follows the
third number. -/
def rgbAt? (cs : List Char) : Option ((Nat × Nat × Nat) × List Char) := do
  let rest ← expectWord? ['r', 'g', 'b'] cs
  let rest := (expectWord? ['a'] rest).getD rest
  let rest ← expect? '(' rest
  let (r, rest) ← digitsAt? (skipBlanks rest)
  let (g, rest) ← digitsAt? (← expectComma? rest)
  let (b, rest) ← digitsAt? (← expectComma? rest)
  some ((digitsValue r, digitsValue g, digitsValue b), rest)

/-- The text after an opacity: digits with an optional fraction, or a fraction alone. -/
def opacityAt? (cs : List Char) : Option (List Char) :=
  match cs with
  | '.' :: rest => (digitsAt? rest).map (·.2)
  | _ => do
    let (_, rest) ← digitsAt? cs
    match rest with
    | '.' :: after => some ((digitsAt? after).elim rest (·.2))
    | _ => some rest

/-- Whether what follows the third number closes an `rgb(…)`: an optional opacity and the
closing bracket. -/
def closesRgb (cs : List Char) : Bool :=
  let rest := skipBlanks cs
  let inner := match rest with
    | ',' :: after => (opacityAt? (skipBlanks after)).map skipBlanks
    | _ => some rest
  inner == some [')']

/-- The value of a hexadecimal digit. -/
def hexValue? (c : Char) : Option Nat :=
  let n := c.toNat
  if 0x30 ≤ n && n ≤ 0x39 then some (n - 0x30)
  else if 0x41 ≤ n && n ≤ 0x46 then some (n - 0x37)
  else if 0x61 ≤ n && n ≤ 0x66 then some (n - 0x57)
  else none

/-- Red, green and blue of a hexadecimal colour; a single digit stands for the same two. -/
def hex? (cs : List Char) : Option (Nat × Nat × Nat) :=
  match cs with
  | '#' :: digits =>
    match digits.mapM hexValue? with
    | some [r, g, b] => some (17 * r, 17 * g, 17 * b)
    | some [r, r', g, g', b, b'] => some (16 * r + r', 16 * g + g', 16 * b + b')
    | _ => none
  | _ => none

/-- The first success of a reader at any place of a text. -/
def searchFor {α : Type} (reader : List Char → Option α) : List Char → Option α
  | [] => reader []
  | c :: rest => match reader (c :: rest) with
    | some a => some a
    | none => searchFor reader rest

/-! ## Conversion -/

/-- A share of 255, rounded; more than 255 counts as 255. -/
def share (n : Nat) : Rat := nearest (mkRat (min n 255) 255)

/-- The whole number nearest to a rounded product. -/
def roundedProduct (x : Rat) (factor : Rat) : Int := (nearest (nearest (x * factor) + 1 / 2)).floor

/-- The hue, as a share of a full turn, of a colour that is not grey. -/
def hueShare (r g b high range : Rat) : Rat :=
  let rc := nearest (nearest (high - r) / range)
  let gc := nearest (nearest (high - g) / range)
  let bc := nearest (nearest (high - b) / range)
  let sixths :=
    if r = high then nearest (bc - gc)
    else if g = high then nearest (nearest (2 + rc) - bc)
    else nearest (nearest (4 + gc) - rc)
  let h := nearest (sixths / 6)
  if h < 0 then nearest (h + 1) else h

/-- The stored text of a colour given by red, green and blue, every step rounded. -/
def ofRgb (r g b : Nat) : String :=
  let high := share (max (max r g) b)
  let low := share (min (min r g) b)
  let r := share r
  let g := share g
  let b := share b
  let sum := nearest (high + low)
  let range := nearest (high - low)
  let light := nearest (sum / 2)
  if low = high then Hsl.wholeText 0 0 (roundedProduct light 100)
  else
    let s :=
      if light ≤ 1 / 2 then nearest (range / sum)
      else nearest (range / nearest (2 - sum))
    Hsl.wholeText (roundedProduct (hueShare r g b high range) 360) (roundedProduct s 100)
      (roundedProduct light 100)

/-! ## Texts -/

/-- Whether a text, but for white space around it, is exactly one notation of a colour. -/
def isNotation (s : String) : Bool :=
  let cs := trimChars s.toList
  (triple? cs).isSome || (hex? cs).isSome ||
    (match rgbAt? cs with
      | some (_, rest) => closesRgb rest
      | none => false) ||
    (match hslFunctionAt? cs with
      | some (_, rest) => rest.isEmpty
      | none => false)

/-- The stored form of a colour text. -/
def normalize (s : String) : String :=
  let cs := trimChars s.toList
  if (triple? cs).isSome then String.ofList cs
  else match searchFor hslFunctionAt? cs with
    | some ((h, s, l), _) => s!"{h.text} {s.text}% {l.text}%"
    | none => match hex? cs with
      | some (r, g, b) => ofRgb r g b
      | none => match searchFor rgbAt? cs with
        | some ((r, g, b), _) => ofRgb r g b
        | none => String.ofList cs

end Restyle.Color
