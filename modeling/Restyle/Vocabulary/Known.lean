import Restyle.Vocabulary.Targets
import Restyle.Vocabulary.Colors
import Restyle.Vocabulary.Sizes
import Restyle.Vocabulary.Modes

/-!
# Words that mean something

A word is known when it names a target, a colour, a corner style or a mode.
-/

set_option autoImplicit false

namespace Restyle.Vocabulary

/-- Whether a text, letter case and surrounding white space put aside, is in a table of names. -/
def isKnownWord (text : String) : Bool :=
  let key := tableKey text
  targetWords.has key || colorWords.has key || radiusWords.has key || modeWords.has key

end Restyle.Vocabulary
