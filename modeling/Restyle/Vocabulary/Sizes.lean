import Restyle.Vocabulary.Table

/-!
# Size words

Words for the steps of the four scales, and the lengths that corner words stand for.
-/

set_option autoImplicit false

namespace Restyle.Vocabulary

/-- Words for the steps of the corner scale. -/
def radiusWords : Table := [
    ("none", "none"), ("zero", "none"), ("0", "none"), ("sharp", "none"), ("square", "none"),
    ("squared", "none"), ("no rounding", "none"), ("no radius", "none"), ("flat", "none"),
    ("hard", "none"), ("angular", "none"), ("boxy", "none"), ("small", "sm"), ("sm", "sm"),
    ("tiny", "sm"), ("slight", "sm"), ("subtle", "sm"), ("barely", "sm"), ("little", "sm"),
    ("minimal", "sm"), ("medium", "md"), ("md", "md"), ("default", "md"), ("normal", "md"),
    ("regular", "md"), ("rounded", "md"), ("moderate", "md"), ("standard", "md"), ("large", "lg"),
    ("lg", "lg"), ("big", "lg"), ("more rounded", "lg"), ("rounder", "lg"), ("softer", "lg"),
    ("soft", "lg"), ("smooth", "lg"), ("extra large", "xl"), ("xl", "xl"), ("very rounded", "xl"),
    ("very soft", "xl"), ("super rounded", "xl"), ("extra round", "xl"), ("full", "full"),
    ("pill", "full"), ("round", "full"), ("circular", "full"), ("circle", "full"),
    ("capsule", "full"), ("completely rounded", "full"), ("fully rounded", "full"),
    ("maximum", "full"), ("max", "full")]

/-- Corner words with their length. -/
def radiusValues : Table := [
    ("none", "0"), ("zero", "0"), ("0", "0"), ("sharp", "0"), ("square", "0"), ("squared", "0"),
    ("angular", "0"), ("boxy", "0"), ("sm", "0.25rem"), ("small", "0.25rem"), ("tiny", "0.25rem"),
    ("slight", "0.25rem"), ("subtle", "0.25rem"), ("minimal", "0.25rem"), ("md", "0.5rem"),
    ("medium", "0.5rem"), ("default", "0.5rem"), ("normal", "0.5rem"), ("regular", "0.5rem"),
    ("rounded", "0.5rem"), ("moderate", "0.5rem"), ("lg", "0.75rem"), ("large", "0.75rem"),
    ("big", "0.75rem"), ("soft", "0.75rem"), ("smooth", "0.75rem"), ("xl", "1rem"),
    ("extra-large", "1rem"), ("extra large", "1rem"), ("very rounded", "1rem"),
    ("very soft", "1rem"), ("2xl", "1.5rem"), ("full", "9999px"), ("pill", "9999px"),
    ("circle", "9999px"), ("circular", "9999px"), ("round", "9999px"), ("capsule", "9999px"),
    ("max", "9999px"), ("maximum", "9999px")]

/-- Words for the steps of the spacing scale. -/
def spacingWords : Table := [
    ("xs", "xs"), ("extra small", "xs"), ("cramped", "xs"), ("sm", "sm"), ("small", "sm"),
    ("tight", "sm"), ("compact", "sm"), ("dense", "sm"), ("md", "md"), ("medium", "md"),
    ("normal", "md"), ("default", "md"), ("regular", "md"), ("lg", "lg"), ("large", "lg"),
    ("relaxed", "lg"), ("comfortable", "lg"), ("roomy", "lg"), ("xl", "xl"),
    ("extra large", "xl"), ("spacious", "xl"), ("airy", "xl"), ("2xl", "2xl"), ("huge", "2xl")]

/-- Words for the steps of the text size scale. -/
def fontSizeWords : Table := [
    ("xs", "xs"), ("extra small", "xs"), ("tiny", "xs"), ("sm", "sm"), ("small", "sm"),
    ("base", "base"), ("normal", "base"), ("default", "base"), ("regular", "base"),
    ("medium", "base"), ("lg", "lg"), ("large", "lg"), ("big", "lg"), ("xl", "xl"),
    ("extra large", "xl"), ("2xl", "2xl"), ("huge", "2xl"), ("3xl", "3xl"), ("giant", "3xl")]

/-- Words for the steps of the text weight scale. -/
def fontWeightWords : Table := [
    ("thin", "100"), ("hairline", "100"), ("extra light", "200"), ("light", "300"),
    ("normal", "400"), ("regular", "400"), ("default", "400"), ("medium", "500"),
    ("semibold", "600"), ("semi bold", "600"), ("bold", "700"), ("extra bold", "800"),
    ("heavy", "900"), ("black", "900")]

end Restyle.Vocabulary
