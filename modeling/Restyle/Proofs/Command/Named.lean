import Restyle.Proofs.Command.Fields

/-!
# What a style command is about

A style command is about the selection, or it names what it is about.  A target is named in a
phrase of several words, or before an equals sign; a command with a target of its own has no
scope.

* `Draft.Named` — a style command that is about the selection or names its target.
* `Draft.Origin.named` — every command of a phrase is one.
* `parse_named` — so is what a text is understood as.
* `parse_aimed` — its target has a word.
-/

set_option autoImplicit false

namespace Restyle.Command

open Restyle.Text Restyle.Vocabulary

variable {ws : Phrase} {d : Draft}

/-! ## Named targets -/

/-- Whether a phrase can name a target: it has several words, or an equals sign. -/
def Phrase.Names (ws : Phrase) : Prop := 2 ≤ ws.length ∨ '=' ∈ ws.lowered.toList

/-- A style command about the selection, or about something that the phrase names, or another
command. -/
def Draft.Named (ws : Phrase) (d : Draft) : Prop :=
  d.kind = .style → d.target = some contextualTarget ∨ (d.scope = none ∧ ws.Names)

theorem Draft.named_of_kind (h : d.kind ≠ .style) : d.Named ws := fun hk => absurd hk h

theorem named_styleDraft (h : ws.Names) (target value : String) (direction : Option Direction)
    (confidence : Rat) : (styleDraft target value direction confidence).Named ws := by
  intro _
  cases styleDraft_about target value direction confidence with
  | selection contextual about scope => exact .inl about
  | named own about scope => exact .inr ⟨scope, h⟩

/-- **A command of a phrase is about the selection or names its target.** -/
theorem Draft.Origin.named (h : d.Origin ws) : d.Named ws := by
  cases h with
  | other haside => exact Draft.named_of_kind haside.kind
  | parts hparts direction confidence => exact named_styleDraft (.inl hparts.several) _ _ _ _
  | equation hcut confidence =>
    refine named_styleDraft (.inr ?_) _ _ _ _
    rw [(splitAtEquals?_eq_some hcut).1]
    exact List.mem_append_right _ List.mem_cons_self
  | selection hsaid confidence => exact fun _ => .inl rfl
  | comparative hwords hsaid harticle =>
    obtain ⟨hpresent, hsuffix⟩ := afterArticle?_suffix harticle
    have hpos := List.length_pos_iff.2 (ne_nil_of_isPresent hpresent)
    have hle := hsuffix.length_le
    refine fun _ => .inr ⟨rfl, .inl ?_⟩
    rw [hwords, List.length_cons]
    omega
  | guess hwords confidence =>
    refine fun _ => .inr ⟨rfl, .inl ?_⟩
    rcases hwords with rfl | ⟨middle, -, rfl⟩ <;> simp

/-- **A style command is about the selection, or its text names what it is about**, and then it
has no scope. -/
theorem parse_named {text : String} {i : Intent} (h : parse text = .ok i) :
    i.toDraft.Named (Phrase.ofText text) := (parse_origin h).named

/-! ## Targets with a word -/

/-- A style command whose target has a word, or another command. -/
def Draft.Aimed (d : Draft) : Prop :=
  d.kind = .style → ∃ target ∈ d.target, words target ≠ []

/-- **The target of a style command has a word.** -/
theorem parse_aimed {text : String} {i : Intent} (h : parse text = .ok i) : i.toDraft.Aimed := by
  intro hkind
  have hmem : i.kind ∈ [.style, .visibility] := hkind ▸ List.mem_cons_self
  obtain ⟨target, htarget, hfilled⟩ := (parse_wellFormed h).target hmem
  exact ⟨target, htarget, hfilled.words_ne_nil⟩

/-! ## Searched texts -/

theorem caseless_equals : Caseless (· = '='.toNat) where
  apart := by
    rintro n rfl
    decide
  null := by decide

/-- A character that is no white space stands in a text where it stands in one of its words. -/
theorem mem_words_iff {c : Char} (hc : isBlank c = false) (s : String) :
    c ∈ s.toList ↔ ∃ w ∈ words s, c ∈ w.toList := by
  constructor
  · intro h
    obtain ⟨w, hw, hcw⟩ := exists_mem_wordChars hc h
    exact ⟨String.ofList w, List.mem_map_of_mem hw, by simpa using hcw⟩
  · rintro ⟨w, hw, hcw⟩
    obtain ⟨cs, hcs, rfl⟩ := List.mem_map.1 hw
    rw [String.toList_ofList] at hcw
    exact ((wordChars_isInfix s.toList).1 cs hcs).subset hcw

theorem equals_mem_lower {s : String} : '=' ∈ (lower s).toList ↔ '=' ∈ s.toList := by
  rw [lower, String.toList_ofList]
  exact caseless_equals.mem_lowerFrom rfl

/-- The form in which tables are searched has the equals signs of the text. -/
theorem equals_mem_tableKey {text : String} (h : '=' ∈ (Phrase.ofText text).lowered.toList) :
    '=' ∈ (tableKey text).toList := by
  have hsolid : isBlank '=' = false := by decide
  have htext : '=' ∈ text.toList := by
    rw [mem_words_iff hsolid, Phrase.lowered, words_unwords] at h
    obtain ⟨u, hu, hmem⟩ := h
    obtain ⟨low, hlow, hu⟩ := List.mem_flatMap.1 hu
    obtain ⟨w, hw, rfl⟩ := List.mem_map.1 hlow
    obtain ⟨v, hv, rfl⟩ := List.mem_map.1 hw
    have hv' : '=' ∈ (lower v).toList := (mem_words_iff hsolid _).2 ⟨u, hu, hmem⟩
    exact (mem_words_iff hsolid _).2 ⟨v, hv, equals_mem_lower.1 hv'⟩
  rw [mem_words_iff hsolid, tableKey, words_trim, ← mem_words_iff hsolid]
  exact equals_mem_lower.2 htext

/-- A text that names something is not searched as one word without an equals sign. -/
theorem Phrase.Names.searched {text : String} (h : (Phrase.ofText text).Names) :
    2 ≤ (words (tableKey text)).length ∨ '=' ∈ (tableKey text).toList := by
  rcases h with h | h
  · left
    rw [tableKey, length_words_trim_lower]
    simpa [Phrase.ofText] using h
  · exact .inr (equals_mem_tableKey h)

end Restyle.Command
