import Restyle.Proofs.Interpreter.Carried

/-!
# Commands that change nothing

A command that fails has not begun to write: the tokens, the mode and the collaborator are as
before, and nobody has heard of anything.  The same holds of the commands that only reply.

* `failure_changes_nothing` — commands that fail, and commands that only reply.
-/

set_option autoImplicit false

namespace Restyle.Interpreter

open Restyle.Color Restyle.Command Restyle.Store Restyle.Sync Restyle.Target

variable {s : Session} {key : Option String} {r : Result}

/-- A report of nothing but a reply. -/
structure Untouched (s : Session) (r : Result) (report : Report) : Prop where
  changes : r.changes = []
  session : report.session = s
  heard : report.heard = []

theorem persist_nil (c : Collaborator) (key : Option String) : c.persist key [] = c := by
  cases key with
  | none => rfl
  | some key => simp [Collaborator.persist]

theorem carryOut_untouched {plan : Plan} (hw : plan.writes = []) (hp : plan.patch = [])
    (h : (s.carryOut plan key).outcome = .ok r) : Untouched s r (s.carryOut plan key) := by
  obtain ⟨-, hc, hs, hh⟩ := carryOut_ok h
  rw [hw] at hc hs hh
  rw [hp, persist_nil] at hs
  exact ⟨hc, hs, hh⟩

/-! ## Commands that fail -/

/-- A plan that does not succeed has no writes and no patch. -/
theorem Planned.nothing {rule : ForegroundRule} {store : TokenStore} {plan : Plan}
    (h : Planned rule store plan) {reply : Reply} (hr : plan.reply = .ok reply)
    (hf : reply.success = false) : plan.writes = [] ∧ plan.patch = [] := by
  cases h with
  | reply reply => exact ⟨rfl, rfl⟩
  | mode mode reply succeeds =>
    cases hr
    rw [succeeds] at hf
    cases hf
  | assign l allowed reply succeeds =>
    cases hr
    rw [succeeds] at hf
    cases hf
  | stopped l allowed fault => cases hr

/-! ## Commands that only reply -/

/-- The kinds of command that only reply. -/
def replyKinds : List IntentKind := [.undo, .redo, .visibility, .layout]

/-- A command that only replies: the request for help, or a command of one of the kinds. -/
def Request.OnlyReplies : Request → Prop
  | .text words => asksForHelp words = true ∨ ∃ i, parse words = .ok i ∧ i.kind ∈ replyKinds
  | .intent i => i.kind ∈ replyKinds

theorem planIntent_nothing {settings : Settings} {store : TokenStore} {intent : Intent}
    {selection : Option Selection} (h : intent.kind ∈ replyKinds) :
    (planIntent settings store intent selection).writes = [] ∧
      (planIntent settings store intent selection).patch = [] := by
  cases planIntent_cases settings store intent selection with
  | answer reply kind told plan =>
    rw [plan]
    exact ⟨rfl, rfl⟩
  | mode kind plan => exact absurd (kind ▸ h) (by decide)
  | preset kind plan => exact absurd (kind ▸ h) (by decide)
  | style kind plan => exact absurd (kind ▸ h) (by decide)

theorem planRequest_nothing {settings : Settings} {store : TokenStore} {request : Request}
    {selection : Option Selection} (h : request.OnlyReplies) :
    (planRequest settings store request selection).writes = [] ∧
      (planRequest settings store request selection).patch = [] := by
  cases request with
  | intent intent => exact planIntent_nothing h
  | text text =>
    unfold planRequest
    dsimp only
    cases planText_cases settings store text selection with
    | help asks plan =>
      rw [plan]
      exact ⟨rfl, rfl⟩
    | misread reason asks read plan =>
      rw [plan]
      exact ⟨rfl, rfl⟩
    | intent intent asks read plan =>
      rcases h with hhelp | ⟨i, hp, hk⟩
      · cases asks.symm.trans hhelp
      · cases read.symm.trans hp
        rw [plan]
        exact planIntent_nothing hk

/-! ## Both -/

/-- **Commands that fail, and commands that only reply, change nothing.** -/
theorem failure_changes_nothing (s : Session) (request : Request) (selection : Option Selection)
    (key : Option String) (r : Result) (h : (s.serve request selection key).outcome = .ok r)
    (hr : r.success = false ∨ request.OnlyReplies) :
    Untouched s r (s.serve request selection key) := by
  rw [Session.serve_eq] at h ⊢
  rcases hr with hf | ho
  · have hplan := planned_planRequest s.settings s.store request selection
    obtain ⟨hw, hp⟩ := hplan.nothing (carryOut_ok h).1 hf
    exact carryOut_untouched hw hp h
  · obtain ⟨hw, hp⟩ := planRequest_nothing ho
    exact carryOut_untouched hw hp h

/-- A command that is not understood, with a collaborator that would take a patch. -/
theorem unknown_changes_nothing :
    ∃ r, (Session.serve { collaborator := .recorder (fun _ => false) [] }
        (.text "hello there world now") none (some "app")).outcome = .ok r ∧
      r.success = false ∧
      Untouched { collaborator := .recorder (fun _ => false) [] } r
        (Session.serve { collaborator := .recorder (fun _ => false) [] }
          (.text "hello there world now") none (some "app")) := by
  obtain ⟨r, h, hf⟩ := exists_ok (b := false) (o := (Session.serve
    { collaborator := .recorder (fun _ => false) [] } (.text "hello there world now") none
      (some "app")).outcome) (by decide +kernel)
  exact ⟨r, h, hf, failure_changes_nothing _ _ _ _ r h (.inl hf)⟩

end Restyle.Interpreter
