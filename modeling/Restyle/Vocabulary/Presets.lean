import Restyle.Vocabulary.Table

/-!
# Presets

A preset is a named bundle of directives, applied together.  A directive names a property and
says how far to move it, or for the corners to which step.
-/

set_option autoImplicit false

namespace Restyle.Vocabulary

/-- A named bundle of directives. -/
structure Preset where
  name : String
  description : String
  /-- Properties with the word for what happens to them, in order. -/
  directives : List (String × String)
  deriving DecidableEq, Repr

/-- The presets. -/
def presets : List Preset := [
    ⟨"make it pop", "Increases contrast and saturation",
      [("saturation", "increase"), ("contrast", "increase")]⟩,
    ⟨"tone it down", "Decreases saturation for a more muted look",
      [("saturation", "decrease")]⟩,
    ⟨"soften", "Adds more rounding and reduces contrast",
      [("radius", "lg"), ("contrast", "decrease")]⟩,
    ⟨"sharpen", "Removes rounding and increases contrast",
      [("radius", "none"), ("contrast", "increase")]⟩,
    ⟨"modernize", "Clean, modern look with subtle rounding",
      [("radius", "md"), ("saturation", "moderate")]⟩,
    ⟨"professional", "Subdued, business-appropriate colors",
      [("saturation", "low"), ("radius", "sm")]⟩,
    ⟨"playful", "Bright, vibrant colors with more rounding",
      [("saturation", "high"), ("radius", "lg")]⟩,
    ⟨"minimal", "Clean and simple with muted colors",
      [("saturation", "low"), ("radius", "sm")]⟩,
    ⟨"bold", "Strong, vibrant colors",
      [("saturation", "high"), ("contrast", "high")]⟩,
    ⟨"calm", "Soft, relaxing colors",
      [("saturation", "low"), ("lightness", "high")]⟩,
    ⟨"energetic", "Bright, vivid colors",
      [("saturation", "high"), ("lightness", "moderate")]⟩,
    ⟨"elegant", "Sophisticated, refined look",
      [("saturation", "moderate"), ("contrast", "moderate")]⟩,
    ⟨"fun", "Bright and playful",
      [("saturation", "high"), ("radius", "xl")]⟩,
    ⟨"serious", "Professional and subdued",
      [("saturation", "low"), ("radius", "sm")]⟩,
    ⟨"friendly", "Warm and approachable",
      [("radius", "lg"), ("saturation", "moderate")]⟩]

/-- Casual phrases for a preset. -/
def presetPhrases : Table := [
    ("make it pop", "make it pop"), ("pop", "make it pop"), ("tone it down", "tone it down"),
    ("tone down", "tone it down"), ("soften", "soften"), ("soft", "soften"), ("softer", "soften"),
    ("sharpen", "sharpen"), ("sharp", "sharpen"), ("sharper", "sharpen"),
    ("modernize", "modernize"), ("modern", "modernize"), ("update look", "modernize"),
    ("freshen up", "modernize"), ("freshen", "modernize"), ("professional", "professional"),
    ("business", "professional"), ("business like", "professional"),
    ("corporate", "professional"), ("playful", "playful"), ("fun", "playful"),
    ("friendly", "friendly"), ("minimal", "minimal"), ("minimalist", "minimal"),
    ("simple", "minimal"), ("clean", "minimal"), ("bold", "bold"), ("strong", "bold"),
    ("calm", "calm"), ("relaxing", "calm"), ("peaceful", "calm"), ("energetic", "energetic"),
    ("vibrant", "energetic"), ("lively", "energetic"), ("elegant", "elegant"),
    ("classy", "elegant"), ("sophisticated", "elegant"), ("serious", "serious")]

/-- The preset of a name. -/
def preset? (name : String) : Option Preset := presets.find? (·.name == name)

end Restyle.Vocabulary
