import Restyle.Color.Foreground
import Restyle.Document.Basic
import Restyle.Numeric.Decimal
import Restyle.Text.Case

/-!
# Settings

How forgiving the matching of words is, how foregrounds are chosen, where themes go and after
which pause, and what is logged.

* `Tolerance.thresholds` — the thresholds of a tolerance.
* `RawSettings.check` — the settings, if every value is admissible.
-/

set_option autoImplicit false

namespace Restyle

open Restyle.Color Restyle.Numeric Restyle.Text

/-! ## Tolerance -/

/-- How forgiving the matching of words is. -/
inductive Tolerance where
  | strict
  | default
  | lenient
  deriving DecidableEq, Repr

/-- The limits within which words match. -/
structure Thresholds where
  targetMaxDistance : Int
  targetMinSimilarity : Rat
  colorMaxDistance : Int
  colorMinSimilarity : Rat
  /-- For corner words and the words of the other scales. -/
  radiusMinSimilarity : Rat
  usePhonetic : Bool
  deriving DecidableEq, Repr

namespace Tolerance

/-- All tolerances. -/
def all : List Tolerance := [.strict, .default, .lenient]

/-- The name of a tolerance. -/
def name : Tolerance → String
  | .strict => "STRICT"
  | .default => "DEFAULT"
  | .lenient => "LENIENT"

/-- The tolerance of a name. -/
def ofName? (name : String) : Option Tolerance := all.find? fun t => t.name == name

/-- The thresholds of a tolerance. -/
def thresholds : Tolerance → Thresholds
  | .strict => ⟨1, 3 / 4, 1, 4 / 5, 3 / 4, false⟩
  | .default => ⟨2, 3 / 5, 2, 13 / 20, 3 / 5, true⟩
  | .lenient => ⟨3, 1 / 2, 3, 11 / 20, 1 / 2, true⟩

end Tolerance

/-! ## Settings -/

/-- Settings that were checked. -/
structure Settings where
  tolerance : Tolerance := .default
  /-- The pause before a theme is written, in milliseconds. -/
  pause : Nat := 500
  /-- The folder of themes, as it was given; null for none. -/
  themeFolder : Document := .null
  foreground : ForegroundRule := {}
  logLevel : String := "INFO"
  /-- The log file, as it was given; null for none. -/
  logFile : Document := .null

/-- The thresholds of the settings. -/
def Settings.thresholds (s : Settings) : Thresholds := s.tolerance.thresholds

/-- Settings that are yet to be checked. -/
structure RawSettings where
  tolerance : String := "DEFAULT"
  pause : Int := 500
  themeFolder : Document := .null
  threshold : Binary64 := .finite 50
  dark : String := "240 5.9% 10%"
  light : String := "0 0% 98%"
  logLevel : String := "INFO"
  logFile : Document := .null

/-- What is wrong with settings. -/
inductive SettingsError where
  | unknownTolerance (name : String)
  | negativePause (pause : Int)
  | thresholdOutOfRange (threshold : Binary64)
  /-- A section is no mapping. -/
  | notSection (kind : DocumentKind)
  /-- A text that is no whole number. -/
  | notWhole (text : String)
  /-- A document that is neither a number nor a text where a whole number is asked for. -/
  | wholeOfKind (kind : DocumentKind)
  /-- A number that has no whole part. -/
  | wholeOfNumber (e : RoundingError)
  /-- A text that is no decimal number. -/
  | notDecimal (text : String)
  /-- A document that is neither a number nor a text where a decimal number is asked for. -/
  | decimalOfKind (kind : DocumentKind)
  /-- A whole number that is too large for a decimal one. -/
  | tooLarge
  deriving DecidableEq, Repr

/-- Settings with every value checked: first the tolerance, then the pause and the threshold. -/
def RawSettings.check (raw : RawSettings) : Except SettingsError Settings :=
  let name := upper raw.tolerance
  match Tolerance.ofName? name with
  | none => .error (.unknownTolerance name)
  | some tolerance =>
    if raw.pause < 0 then .error (.negativePause raw.pause)
    else if !((Binary64.finite 0).le raw.threshold && raw.threshold.le (.finite 100)) then
      .error (.thresholdOutOfRange raw.threshold)
    else .ok {
      tolerance
      pause := raw.pause.toNat
      themeFolder := raw.themeFolder
      foreground := { threshold := raw.threshold, dark := raw.dark, light := raw.light }
      logLevel := raw.logLevel
      logFile := raw.logFile }

end Restyle
