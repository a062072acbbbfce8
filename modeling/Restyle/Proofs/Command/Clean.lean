import Restyle.Command.Comparative
import Restyle.Command.Phrase
import Restyle.Proofs.Text.Settled
import Restyle.Proofs.Text.Words

/-!
# Words as they are read

A phrase is written as text and taken apart again in several places: where a table is searched,
where an article is left out, and where a target is looked up.  What is read back are the words
that were put in, for every phrase of a text.

* `Word.Clean`, `Phrase.Clean` — what the words of a text have.
* `Phrase.Clean.words_lowered`, `Phrase.Clean.trimmed` — what is read back.
* `dropEnding?_eq_some` — what is left without an ending.
* `dropArticle_cases` — how an article is left out.
* `words_dropArticle`, `words_dropArticle_ne_nil`, `trimmed_dropArticle` — what is left without an
  article.
-/

set_option autoImplicit false

namespace Restyle.Command

open Restyle.Text

variable {ws rest : Phrase}

/-! ## Words of a text -/

/-- A word in lower case; if that is ASCII, patterns see the same. -/
structure Word.Clean (w : Word) : Prop where
  word : IsWord w.lowered.toList
  settled : ∀ c ∈ w.lowered.toList, Settled c.toNat
  agrees : (∀ c ∈ w.lowered.toList, c.toNat < 0x80) → w.folded = w.lowered

/-- A phrase of such words. -/
def Phrase.Clean (ws : Phrase) : Prop := ∀ w ∈ ws, w.Clean

theorem clean_ofText (text : String) : (Phrase.ofText text).Clean := by
  intro w hw
  obtain ⟨s, hs, rfl⟩ := List.mem_map.1 hw
  exact ⟨(isWord_of_mem_words hs).lower, settled_lower s, fold_eq_lower⟩

theorem Phrase.Clean.subset (h : ws.Clean) (hs : rest ⊆ ws) : rest.Clean :=
  fun w hw => h w (hs hw)

/-- The words of the text of a phrase are those of the phrase. -/
theorem Phrase.Clean.words_lowered (h : ws.Clean) : words ws.lowered = ws.map Word.lowered :=
  words_unwords_of_isWord (List.forall_mem_map.2 fun w hw => (h w hw).word)

theorem Phrase.Clean.words_ne_nil (h : ws.Clean) (hne : ws ≠ []) : words ws.lowered ≠ [] := by
  rw [h.words_lowered]
  exact mt List.map_eq_nil_iff.1 hne

theorem Phrase.Clean.trimmed (h : ws.Clean) : Trimmed ws.lowered.toList :=
  trimmed_unwords (List.forall_mem_map.2 fun w hw => (h w hw).word)

theorem Phrase.Clean.settled (h : ws.Clean) : ∀ c ∈ ws.lowered.toList, Settled c.toNat := by
  intro c hc
  rcases mem_unwords hc with rfl | ⟨s, hs, hc⟩
  · exact settled_of_ascii (by decide) (by decide)
  · obtain ⟨w, hw, rfl⟩ := List.mem_map.1 hs
    exact (h w hw).settled c hc

/-! ## Endings -/

theorem dropEnding?_eq_some {ending s stem : String} (h : dropEnding? ending s = some stem) :
    s = stem ++ ending := by
  unfold dropEnding? at h
  obtain ⟨hs, he⟩ := Option.ite_none_right_eq_some.1 h
  obtain ⟨before, hb⟩ := List.isSuffixOf_iff_suffix.1 hs
  cases he
  apply String.toList_inj.1
  rw [String.toList_append, String.toList_ofList, ← hb, List.length_append,
    Nat.add_sub_cancel, List.take_left]

/-! ## Articles -/

/-- An article and a character of white space are left out, and all white space behind them, or
nothing is. -/
theorem dropArticle_cases (s : String) : dropArticle s = s ∨
    ∃ c rest, isBlank c = true ∧ s.toList = 't' :: 'h' :: 'e' :: c :: rest ∧
      dropArticle s = String.ofList (rest.dropWhile isBlank) := by
  unfold dropArticle
  split
  · rename_i c rest hs
    split
    · rename_i hc
      exact .inr ⟨c, rest, hc, hs, rfl⟩
    · exact .inl rfl
  · exact .inl rfl

/-- Without an article a text has the same words, or all but the first, which was the article. -/
theorem words_dropArticle (s : String) :
    words s = words (dropArticle s) ∨ words s = "the" :: words (dropArticle s) := by
  rcases dropArticle_cases s with hkept | ⟨c, rest, hc, hs, hdropped⟩
  · exact .inl (by rw [hkept])
  · right
    rw [hdropped, words, words, hs, String.toList_ofList, wordChars_dropWhile]
    exact congrArg (List.map String.ofList) (wordChars_append_cons hc ['t', 'h', 'e'] rest)

theorem dropArticle_of_isWord {s : String} (h : IsWord s.toList) : dropArticle s = s := by
  rcases dropArticle_cases s with hkept | ⟨c, rest, hc, hs, -⟩
  · exact hkept
  · rw [h.solid c (by simp [hs])] at hc
    cases hc

/-- Without an article a trimmed text with a word still has one. -/
theorem words_dropArticle_ne_nil {s : String} (ht : Trimmed s.toList) (h : words s ≠ []) :
    words (dropArticle s) ≠ [] := by
  rcases dropArticle_cases s with hkept | ⟨c, rest, hc, hs, hdropped⟩
  · rwa [hkept]
  · -- the last character is no white space, so that it stands behind the article
    have hlast := ht.last
    rw [hs] at hlast
    cases hrest : rest.getLast? with
    | none =>
      obtain rfl := List.getLast?_eq_none_iff.1 hrest
      have hsolid := hlast c rfl
      rw [hc] at hsolid
      cases hsolid
    | some d =>
      have hd : isBlank d = false := hlast d (by simp [List.getLast?_cons, hrest])
      obtain ⟨w, hw, -⟩ := exists_mem_wordChars hd (List.mem_of_getLast? hrest)
      rw [hdropped, words, String.toList_ofList, wordChars_dropWhile]
      exact List.ne_nil_of_mem (List.mem_map_of_mem hw)

/-- Without an article trimmed text is trimmed. -/
theorem trimmed_dropArticle {s : String} (h : Trimmed s.toList) :
    Trimmed (dropArticle s).toList := by
  rcases dropArticle_cases s with hkept | ⟨c, rest, -, hs, hdropped⟩
  · rwa [hkept]
  · rw [hdropped, String.toList_ofList]
    rw [hs] at h
    have hsuffix : rest.dropWhile isBlank <:+ 't' :: 'h' :: 'e' :: c :: rest :=
      (List.dropWhile_suffix isBlank).trans ⟨['t', 'h', 'e', c], rfl⟩
    exact ⟨head?_dropWhile_isBlank rest, h.last_of_suffix hsuffix⟩

end Restyle.Command
