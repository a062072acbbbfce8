import Restyle.Vocabulary.Table

/-!
# Words for the light and dark mode
-/

set_option autoImplicit false

namespace Restyle.Vocabulary

/-- Words for a mode, or for changing it. -/
def modeWords : Table := [
    ("dark", "dark"), ("dark mode", "dark"), ("dark theme", "dark"), ("night", "dark"),
    ("night mode", "dark"), ("night theme", "dark"), ("midnight", "dark"), ("black", "dark"),
    ("dim", "dark"), ("light", "light"), ("light mode", "light"), ("light theme", "light"),
    ("day", "light"), ("day mode", "light"), ("day theme", "light"), ("bright", "light"),
    ("white", "light"), ("normal", "light"), ("toggle", "toggle"), ("switch", "toggle"),
    ("flip", "toggle"), ("change mode", "toggle"), ("switch mode", "toggle"),
    ("other mode", "toggle")]

end Restyle.Vocabulary
