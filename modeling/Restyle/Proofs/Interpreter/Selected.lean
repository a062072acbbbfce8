import Restyle.Interpreter.Session
import Restyle.Proofs.Command.Named

/-!
# When the selection matters

A target is looked up where it is named, and bound to the selection where the command is about the
selection, or where its target is blank.  No command that a text is understood as has a blank
target.  So the selection is seen only by commands that are about it, and of the selection only its
shape is.

* `resolve_unselected` — the binding of a command that names its target.
* `selection_unseen` — texts whose commands are not about the selection.
* `execute_of_shape` — selections of the same shape.
-/

set_option autoImplicit false

namespace Restyle.Interpreter

open Restyle.Command Restyle.Matching Restyle.Store Restyle.Target Restyle.Text
  Restyle.Vocabulary

variable {i : Intent} {selection other : Option Selection}

/-! ## Commands that are not about the selection -/

theorem tableKey_ne_empty {target : String} (h : words target ≠ []) : tableKey target ≠ "" := by
  intro hempty
  have hlength : (words (tableKey target)).length = (words target).length :=
    length_words_trim_lower target
  rw [hempty] at hlength
  exact h (List.eq_nil_of_length_eq_zero hlength.symm)

/-- A target with a word is looked up, whatever is selected. -/
theorem resolve_unselected (haimed : i.toDraft.Aimed) (hkind : i.kind = .style)
    (hcontextual : i.isContextual = false) (ρ : Rounding) (limits : Limits)
    (selection other : Option Selection) :
    resolve ρ limits i selection = resolve ρ limits i other := by
  obtain ⟨target, htarget, hwords⟩ := haimed hkind
  have hkey : tableKey (i.target.getD "") ≠ "" := by
    rw [show i.target = some target from htarget]
    exact tableKey_ne_empty hwords
  simp only [resolve, hcontextual, Bool.false_eq_true, if_false, if_neg hkey]

/-- Commands of the other kinds have no target that is bound. -/
theorem planIntent_unselected (haimed : i.toDraft.Aimed) (hcontextual : i.isContextual = false)
    (settings : Settings) (store : TokenStore) (selection other : Option Selection) :
    planIntent settings store i selection = planIntent settings store i other := by
  unfold planIntent
  cases hkind : i.kind with
  | style =>
    dsimp only
    unfold planStyle
    rw [resolve_unselected haimed hkind hcontextual _ _ selection other]
  | _ => rfl

/-- **The selection is not seen by a text whose command is not about it**: whatever is selected,
the text comes to the same outcome and the same tokens, the subscribers hear the same, and the
collaborator is handed the same. -/
theorem selection_unseen {text : String} (h : parse text = .ok i)
    (hcontextual : i.isContextual = false) (s : Session) (selection other : Option Selection)
    (key : Option String) : s.execute text selection key = s.execute text other key := by
  have hplan : planText s.settings s.store text selection =
      planText s.settings s.store text other := by
    unfold planText
    rw [h]
    dsimp only
    rw [planIntent_unselected (parse_aimed h) hcontextual _ _ selection other]
  rw [Session.execute, Session.execute, hplan]

/-- A card that is selected is not seen by a command about the background. -/
theorem background_unselected :
    let s : Session := { store := TokenStore.fresh defaultTokens .light }
    let card : Selection := { kind := "component", id := "c1", componentKind := "card" }
    s.execute "make the background blue" (some card) (some "app") =
      s.execute "make the background blue" none (some "app") := by
  intro s card
  have hparse : parse "make the background blue" = .ok {
      kind := .style
      confidence := 90 / 100
      target := some "background"
      value := some "blue"
      raw := "make the background blue" } := by
    decide +kernel
  exact selection_unseen hparse rfl s (some card) none (some "app")

/-- It is seen by a command about the selection. -/
example :
    let s : Session := { store := TokenStore.fresh defaultTokens .light }
    let card : Selection := { kind := "component", id := "c1", componentKind := "card" }
    (s.execute "make it blue" (some card) none).session.store.get "card" ≠
      (s.execute "make it blue" none none).session.store.get "card" := by
  decide +kernel

/-! ## What is seen of a selection -/

/-- **Of a selection only its shape is seen**, by any text. -/
theorem execute_of_shape (hshape : shapeOf selection = shapeOf other) (s : Session)
    (text : String) (key : Option String) :
    s.execute text selection key = s.execute text other key := by
  have hresolve : ∀ ρ limits i, resolve ρ limits i selection = resolve ρ limits i other := by
    intro ρ limits i
    unfold resolve resolveSelection isComponent
    rw [hshape]
  have hplan : ∀ settings store i,
      planIntent settings store i selection = planIntent settings store i other := by
    intro settings store i
    simp only [planIntent, planStyle, hresolve]
  simp only [Session.execute, planText, hplan]

end Restyle.Interpreter
