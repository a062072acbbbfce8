import Restyle.Proofs.Interpreter.Carried
import Restyle.Proofs.Numeric.InRange

/-!
# Commands that a fault stops

A command that runs into a fault hands nothing over.  Nearly all of them have written nothing
either, since everything is worked out before the first write.  The exceptions are the presets
that set the corners before they step the brand colour: when the step is what fails, the corners
have been set, and stay so.

* `followDirectives_fault` — where a preset stops, and what it has written by then.
* `setsCorners?` — the corners that a request sets before a fault can stop it.
* `fault_leaves_at_most_corners` — what a fault leaves behind.
* `soften_stopped` — corners that a stopped preset has changed.
-/

set_option autoImplicit false

namespace Restyle.Interpreter

open Restyle.Change Restyle.Color Restyle.Command Restyle.Numeric Restyle.Store Restyle.Target
  Restyle.Text Restyle.Vocabulary

/-! ## Directives -/

/-- The write of a directive about the corners. -/
def cornerWrite? (directive : String × String) : Option Write :=
  if directive.1 = "radius" then (radiusScale.value? directive.2).map (.token radius.token ·)
  else none

theorem followDirective_writes {p q : PresetProgress} {property word : String}
    (h : followDirective p property word = .ok q) :
    q.writes = p.writes ++ (cornerWrite? (property, word)).toList := by
  cases followDirective_cases p property word with
  | corners value about known result =>
    cases result.symm.trans h
    simp [cornerWrite?, about, known]
  | step direction change about asks stepped result =>
    cases result.symm.trans h
    simp [cornerWrite?, about]
  | fault direction fault about asks stopped result => cases result.symm.trans h
  | skip unknown result =>
    cases result.symm.trans h
    by_cases about : property = "radius"
    · simp [cornerWrite?, about, unknown about]
    · simp [cornerWrite?, about]

/-- Whether a directive asks for a step of the brand colour. -/
def stepsColor (directive : String × String) : Bool :=
  directive.1 != "radius" && (directiveDirection? directive.2).isSome

/-- Only a step of the brand colour can fail. -/
theorem followDirective_error {p : PresetProgress} {property word : String} {fault : Fault}
    (h : followDirective p property word = .error fault) : stepsColor (property, word) = true := by
  cases followDirective_cases p property word with
  | fault direction fault about asks stopped result => simp [stepsColor, about, asks]
  | corners value about known result => cases result.symm.trans h
  | step direction change about asks stepped result => cases result.symm.trans h
  | skip unknown result => cases result.symm.trans h

theorem filterMap_cornerWrite?_cons (directive : String × String) (rest : List (String × String)) :
    (directive :: rest).filterMap cornerWrite? =
      (cornerWrite? directive).toList ++ rest.filterMap cornerWrite? := by
  cases hc : cornerWrite? directive with
  | none =>
    rw [List.filterMap_cons_none hc]
    rfl
  | some w =>
    rw [List.filterMap_cons_some hc]
    rfl

/-- **Where a preset stops**: at a step of the brand colour, with the corners written that come
before it. -/
theorem followDirectives_fault {p q : PresetProgress} {directives : List (String × String)}
    {fault : Fault} (h : followDirectives p directives = (q, some fault)) :
    ∃ before directive after, directives = before ++ directive :: after ∧
      stepsColor directive = true ∧ q.writes = p.writes ++ before.filterMap cornerWrite? := by
  induction directives generalizing p with
  | nil => cases h
  | cons directive rest ih =>
    obtain ⟨property, word⟩ := directive
    rw [followDirectives] at h
    split at h
    · rename_i e he
      cases h
      exact ⟨[], (property, word), rest, rfl, followDirective_error he, by simp⟩
    · rename_i p' hp'
      obtain ⟨before, directive, after, rfl, hd, hw⟩ := ih h
      refine ⟨(property, word) :: before, directive, after, rfl, hd, ?_⟩
      rw [hw, followDirective_writes hp', List.append_assoc, filterMap_cornerWrite?_cons]

/-- A preset that does not stop has written the corners of all its directives. -/
theorem followDirectives_writes {p q : PresetProgress} {directives : List (String × String)}
    (h : followDirectives p directives = (q, none)) :
    q.writes = p.writes ++ directives.filterMap cornerWrite? := by
  induction directives generalizing p with
  | nil =>
    cases h
    exact (List.append_nil _).symm
  | cons directive rest ih =>
    obtain ⟨property, word⟩ := directive
    rw [followDirectives] at h
    split at h
    · cases h
    · rename_i p' hp'
      rw [ih h, followDirective_writes hp', List.append_assoc, filterMap_cornerWrite?_cons]

/-! ## Presets that set the corners first -/

/-- The presets that set the corners before they step the brand colour, with the corners. -/
def cornersFirst : List (String × String) := [("soften", "0.75rem"), ("sharpen", "0")]

/-- The corners written before a step of the brand colour are those of the table, whichever preset
and whichever of its steps it is. -/
theorem cornersFirst_spec : ∀ p ∈ presets, ∀ i < p.directives.length,
    (p.directives[i]?.all stepsColor) = true →
      (p.directives.take i).filterMap cornerWrite? =
        ((cornersFirst.lookup p.name).map (.token radius.token ·)).toList := by
  decide +kernel

/-- The preset that an intent asks for. -/
def presetOf? (intent : Intent) : Option Preset :=
  if intent.kind = .preset then
    let word := tableKey (intent.value.getD "")
    preset? ((presetPhrases.meaning? word).getD word)
  else none

/-- The intent that a request comes down to; none for a request for help, and for a text that is
not understood at all. -/
def Request.intent? : Request → Option Intent
  | .text words => if asksForHelp words then none else (parse words).toOption
  | .intent i => some i

/-- The corners that a request sets before a fault can stop it. -/
def Request.setsCorners? (request : Request) : Option String :=
  (request.intent?.bind presetOf?).bind fun preset => cornersFirst.lookup preset.name

theorem planPreset_fault {rule : ForegroundRule} {store : TokenStore} {intent : Intent}
    {fault : Fault} (hk : intent.kind = .preset)
    (h : (planPreset rule store intent).reply = .error fault) :
    (planPreset rule store intent).writes =
      (((presetOf? intent).bind fun preset => cornersFirst.lookup preset.name).map
        (.token radius.token ·)).toList := by
  have hof : presetOf? intent = preset? (presetName intent) := if_pos hk
  cases planPreset_cases rule store intent with
  | unknown missing plan =>
    rw [plan] at h
    cases h
  | stopped preset p fault known followed plan =>
    obtain ⟨before, directive, after, hsplit, hd, hw⟩ := followDirectives_fault followed
    have hspec := cornersFirst_spec preset (List.mem_of_find?_eq_some known) before.length
      (by simp [hsplit]) (by simpa [hsplit] using hd)
    rw [hsplit, List.take_left] at hspec
    rw [plan, hof, known]
    simp only [Option.bind_some]
    rw [hw, List.nil_append, hspec]
  | applied preset p known followed plan =>
    rw [plan] at h
    dsimp only at h
    split at h
    · cases h
    · cases h

/-! ## Plans -/

/-- A step that comes to a fault does so before anything is written. -/
theorem planRelative_fault {rule : ForegroundRule} {store : TokenStore} {intent : Intent}
    {binding : Binding} {phrase : String} {direction : Direction} {fault : Fault}
    (h : (planRelative rule store intent binding phrase direction).reply = .error fault) :
    (planRelative rule store intent binding phrase direction).writes = [] ∧
      relativeChange store.get phrase direction binding.definition.token = .error fault := by
  cases planRelative_cases rule store intent binding phrase direction with
  | fault fault stopped plan =>
    rw [plan] at h ⊢
    cases h
    exact ⟨rfl, stopped⟩
  | refused reason found plan =>
    rw [plan] at h
    cases h
  | bound change found own plan =>
    rw [plan] at h
    cases h
  | scale change token step found stepped other plan =>
    rw [plan] at h
    cases h

theorem planAbsolute_reply (settings : Settings) (intent : Intent) (binding : Binding)
    (fault : Fault) : (planAbsolute settings intent binding).reply ≠ .error fault := by
  intro h
  cases planAbsolute_cases settings intent binding with
  | unknown definition chosen unknown plan =>
    rw [plan] at h
    cases h
  | found definition found chosen known plan =>
    rw [plan] at h
    cases h

/-- The fault of a style command is that of a step. -/
theorem planStyle_fault {settings : Settings} {store : TokenStore} {intent : Intent}
    {selection : Option Selection} {fault : Fault}
    (h : (planStyle settings store intent selection).reply = .error fault) :
    (planStyle settings store intent selection).writes = [] ∧
      ∃ phrase direction token, relativeChange store.get phrase direction token = .error fault := by
  cases planStyle_cases settings store intent selection with
  | unbound unknown resolved plan =>
    rw [plan] at h
    cases h
  | mode binding resolved category plan =>
    rw [plan] at h
    cases h
  | step binding direction phrase resolved category asks value present plan =>
    rw [plan] at h ⊢
    obtain ⟨hwrites, hchange⟩ := planRelative_fault h
    exact ⟨hwrites, _, _, _, hchange⟩
  | value binding resolved category noStep plan =>
    rw [plan] at h
    exact absurd h (planAbsolute_reply _ _ _ _)

theorem planIntent_fault {settings : Settings} {store : TokenStore} {intent : Intent}
    {selection : Option Selection} {fault : Fault}
    (h : (planIntent settings store intent selection).reply = .error fault) :
    (planIntent settings store intent selection).writes =
      (((presetOf? intent).bind fun preset => cornersFirst.lookup preset.name).map
        (.token radius.token ·)).toList := by
  cases planIntent_cases settings store intent selection with
  | answer reply kind told plan =>
    rw [plan] at h
    cases h
  | mode kind plan =>
    rw [plan] at h
    cases h
  | preset kind plan =>
    rw [plan] at h ⊢
    exact planPreset_fault kind h
  | style kind plan =>
    have hnone : presetOf? intent = none := by simp [presetOf?, kind]
    rw [plan] at h ⊢
    rw [hnone]
    exact (planStyle_fault h).1

/-- The writes of a plan that comes to a fault. -/
theorem planRequest_fault {settings : Settings} {store : TokenStore} {request : Request}
    {selection : Option Selection} {fault : Fault}
    (h : (planRequest settings store request selection).reply = .error fault) :
    (planRequest settings store request selection).writes =
      (request.setsCorners?.map (.token radius.token ·)).toList := by
  cases request with
  | intent intent => exact planIntent_fault h
  | text text =>
    unfold planRequest at h ⊢
    dsimp only at h ⊢
    cases planText_cases settings store text selection with
    | help asks plan =>
      rw [plan] at h
      cases h
    | misread reason asks read plan =>
      have hnone : (Request.text text).intent? = none := by
        simp [Request.intent?, read, Except.toOption]
      rw [plan, Request.setsCorners?, hnone]
      rfl
    | intent intent asks read plan =>
      have hsome : (Request.text text).intent? = some intent := by
        simp [Request.intent?, asks, read, Except.toOption]
      rw [plan] at h ⊢
      rw [Request.setsCorners?, hsome]
      exact planIntent_fault h

/-! ## Commands -/

/-- What carrying out a plan comes to when there is a fault. -/
theorem carryOut_error {s : Session} {plan : Plan} {key : Option String} {fault : Fault}
    (h : (s.carryOut plan key).outcome = .error fault) :
    plan.reply = .error fault ∧
      (s.carryOut plan key).session =
        { s with store := (performWrites s.store plan.writes).1 } ∧
      (s.carryOut plan key).heard = (performWrites s.store plan.writes).2.2 := by
  unfold Session.carryOut at h ⊢
  dsimp only at h ⊢
  split at h
  · rename_i e he
    cases h
    simp only [he, and_self]
  · cases h

/-- What a fault leaves behind: the session as it was but for corners that were set first. -/
theorem serve_fault {s : Session} {request : Request} {selection : Option Selection}
    {key : Option String} {fault : Fault}
    (h : (s.serve request selection key).outcome = .error fault) :
    match request.setsCorners? with
    | none => (s.serve request selection key).session = s ∧
        (s.serve request selection key).heard = []
    | some value =>
        (s.serve request selection key).session =
          { s with store := (s.store.set radius.token value).1 } ∧
        (s.serve request selection key).heard = (s.store.set radius.token value).2 := by
  rw [Session.serve_eq] at h ⊢
  obtain ⟨hr, hs, hh⟩ := carryOut_error h
  rw [planRequest_fault hr] at hs hh
  cases hc : request.setsCorners? with
  | none =>
    rw [hc] at hs hh
    exact ⟨hs, hh⟩
  | some value =>
    rw [hc] at hs hh
    refine ⟨hs, ?_⟩
    rw [hh]
    exact List.append_nil _

/-! ## A brand colour that cannot be stepped -/

/-- Nothing but the hue can be stepped where the hue is infinite. -/
theorem adjustColor_infinite {text : String} {sat light : Binary64} {negative : Bool}
    (hread : Hsl.read? text = some ⟨.infinite negative, sat, light⟩) (direction : Direction)
    (property : ColorProperty) (hp : property ≠ .hue) :
    adjustColor text direction property.name = .error (.rounding .infinite) := by
  unfold adjustColor adjustColorBy
  rw [hread]
  cases property with
  | hue => exact absurd rfl hp
  | lightness => rfl
  | saturation => rfl
  | contrast => rfl

theorem preset?_soften : preset? ((presetPhrases.meaning? (tableKey "soften")).getD
    (tableKey "soften")) = some ⟨"soften", "Adds more rounding and reduces contrast",
      [("radius", "lg"), ("contrast", "decrease")]⟩ := by decide

theorem planPreset_soften {rule : ForegroundRule} {store : TokenStore} {intent : Intent}
    {fault : Fault} (hvalue : intent.value = some "soften")
    (hstep : adjustColor (store.get primary.token) .less "contrast" = .error fault) :
    planPreset rule store intent =
      { writes := [.token radius.token "0.75rem"], reply := .error fault } := by
  have hlength : radiusScale.value? "lg" = some "0.75rem" := by decide
  unfold planPreset
  dsimp only
  rw [hvalue, Option.getD_some, preset?_soften]
  simp [followDirectives, followDirective, directiveDirection?, hlength, hstep]

theorem planIntent_soften {settings : Settings} {store : TokenStore} {intent : Intent}
    {fault : Fault} (hkind : intent.kind = .preset) (hvalue : intent.value = some "soften")
    (hstep : adjustColor (store.get primary.token) .less "contrast" = .error fault)
    (selection : Option Selection) :
    planIntent settings store intent selection =
      { writes := [.token radius.token "0.75rem"], reply := .error fault } := by
  unfold planIntent
  simp only [hkind]
  exact planPreset_soften hvalue hstep

/-- Softening a brand colour that cannot be stepped. -/
theorem serve_soften {s : Session} {fault : Fault} (key : Option String)
    (hstep : adjustColor (s.store.get primary.token) .less "contrast" = .error fault) :
    s.serve (.text "soften") none key =
      s.carryOut { writes := [.token radius.token "0.75rem"], reply := .error fault } key := by
  have hhelp : asksForHelp "soften" = false := by decide +kernel
  have hparse : (parse "soften").toOption.map (fun i => (i.kind, i.value)) =
      some (.preset, some "soften") := by decide +kernel
  have hplan : planText s.settings s.store "soften" none =
      { writes := [.token radius.token "0.75rem"], reply := .error fault } := by
    unfold planText
    rw [if_neg (by simp [hhelp])]
    cases hp : parse "soften" with
    | error e =>
      rw [hp] at hparse
      cases hparse
    | ok intent =>
      rw [hp] at hparse
      simp only [Except.toOption, Option.map_some, Option.some.injEq, Prod.mk.injEq] at hparse
      exact planIntent_soften hparse.1 hparse.2 hstep none
  rw [← hplan]
  rfl

/-- A hue of 401 digits. -/
def hugeHue : Component := ⟨List.replicate 401 '9', []⟩

theorem hugeHue_written : hugeHue.Written where
  whole_ne_nil := by decide
  whole := fun _ hd => List.eq_of_mem_replicate hd ▸ by decide
  fraction := List.forall_mem_nil _

theorem hugeHue_value : hugeHue.value = .infinite false :=
  plainDecimal_of_large hugeHue.whole (by decide +kernel)

/-- A session with a brand colour whose hue is too large a number. -/
def hugeSession : Session where
  store.tokens := defaultTokens.put primary.token
    s!"{hugeHue.text} {(Component.ofNat 50).text}% {(Component.ofNat 50).text}%"

theorem hugeSession_step : adjustColor (hugeSession.store.get primary.token) .less "contrast" =
    .error (.rounding .infinite) := by
  have hread := read?_triple hugeHue_written (Component.written_ofNat 50)
    (Component.written_ofNat 50)
  have hcolor : hugeSession.store.get primary.token =
      s!"{hugeHue.text} {(Component.ofNat 50).text}% {(Component.ofNat 50).text}%" := by
    simp only [hugeSession, TokenStore.get, Tokens.get, Tokens.put, Assoc.get?_put, if_pos,
      Option.getD_some]
  rw [hugeHue_value] at hread
  rw [hcolor]
  exact adjustColor_infinite hread .less .contrast (by decide)

/-! ## What a fault leaves behind -/

/-- **What a fault leaves behind.**  Nothing was handed over, the mode and all tokens but the
corners are as before, and so are the corners unless the request is for a preset that sets them
before it steps the brand colour; then they have what the preset gives them. -/
theorem fault_leaves_at_most_corners (s : Session) (request : Request)
    (selection : Option Selection) (key : Option String) (fault : Fault)
    (h : (s.serve request selection key).outcome = .error fault) :
    let after := (s.serve request selection key).session
    after.collaborator = s.collaborator ∧ after.store.mode = s.store.mode ∧
    (∀ token, token ≠ radius.token → after.store.get token = s.store.get token) ∧
    (request.setsCorners? = none →
      after = s ∧ (s.serve request selection key).heard = []) ∧
    ∀ value, request.setsCorners? = some value → after.store.get radius.token = value := by
  intro after
  have hfault := serve_fault h
  cases hc : request.setsCorners? with
  | none =>
    rw [hc] at hfault
    obtain ⟨hs, hh⟩ := hfault
    have hafter : after = s := hs
    rw [hafter]
    refine ⟨rfl, rfl, fun token _ => rfl, fun _ => ⟨rfl, hh⟩, ?_⟩
    intro value hv
    cases hv
  | some corners =>
    rw [hc] at hfault
    obtain ⟨hs, -⟩ := hfault
    have hafter : after = { s with store := (s.store.set radius.token corners).1 } := hs
    have hget : ∀ token, after.store.get token =
        if token = radius.token then corners else s.store.get token := by
      intro token
      rw [hafter]
      exact get_perform s.store radius.token corners token
    refine ⟨by rw [hafter], by rw [hafter]; rfl, ?_, ?_, ?_⟩
    · intro token ht
      rw [hget, if_neg ht]
    · intro hn
      cases hn
    · rintro value ⟨⟩
      rw [hget, if_pos rfl]

/-- What softening leaves behind when the brand colour cannot be stepped. -/
theorem softened_corners_stay :
    (hugeSession.serve (.text "soften") none (some "app")).session.store.get radius.token =
      "0.75rem" := by
  have hserve := serve_soften (some "app") hugeSession_step
  have h := fault_leaves_at_most_corners hugeSession (.text "soften") none (some "app")
    (.rounding .infinite) (by rw [hserve]; rfl)
  exact h.2.2.2.2 "0.75rem" (by decide)

/-- Corners that a stopped preset has changed. -/
theorem soften_stopped :
    let report := hugeSession.serve (.text "soften") none (some "app")
    report.outcome = .error (.rounding .infinite) ∧
      hugeSession.store.get radius.token = "0.5rem" ∧
      report.session.store.get radius.token = "0.75rem" := by
  intro report
  have hserve : report = _ := serve_soften (some "app") hugeSession_step
  rw [hserve]
  exact ⟨rfl, by decide +kernel, by decide +kernel⟩

end Restyle.Interpreter
