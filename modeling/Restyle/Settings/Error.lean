import Restyle.Settings.Basic
import Restyle.Text.Quoted

/-!
# The wording of settings errors
-/

set_option autoImplicit false

namespace Restyle

open Restyle.Numeric Restyle.Text

/-- The wording of a settings error. -/
def SettingsError.message : SettingsError → String
  | .unknownTolerance name =>
    "Unknown tolerance preset: " ++ name ++ " (expected one of " ++
      String.intercalate ", " (Tolerance.all.map Tolerance.name) ++ ")"
  | .negativePause pause => "debounce_ms must be >= 0, got " ++ toString pause
  | .thresholdOutOfRange x => "foreground_threshold must be in 0..100, got " ++ shortest x
  | .notSection kind => "'" ++ kind.name ++ "' object has no attribute 'get'"
  | .notWhole text =>
    "invalid literal for int() with base 10: " ++ String.ofList ((quoted text).toList.take 200)
  | .wholeOfKind kind =>
    "int() argument must be a string, a bytes-like object or a real number, not '" ++ kind.name ++ "'"
  | .wholeOfNumber e => e.message
  | .notDecimal text => "could not convert string to float: " ++ quoted text
  | .decimalOfKind kind =>
    "float() argument must be a string or a real number, not '" ++ kind.name ++ "'"
  | .tooLarge => "int too large to convert to float"

end Restyle
