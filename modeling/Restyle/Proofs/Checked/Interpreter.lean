import Restyle.Proofs.Checked.Words
import Restyle.Proofs.Interpreter.Faults

/-!
# Carrying out intents without a miss

An intent is planned and carried out with every look-up checked.  Whatever the intent is, and
whatever the settings, the selection and the store are, it comes to what it comes to unchecked.

* `planIntent_ok` — plans.
* `performWrites_ok` — writes, which bring colours into their stored form.
* `executeIntent` — an intent carried out with every look-up checked.
* `lookups_never_miss` — that no look-up misses, and what else can stop an intent.
-/

set_option autoImplicit false

namespace Restyle.Checked

open Restyle.Change Restyle.Color Restyle.Command Restyle.Interpreter Restyle.Matching
  Restyle.Store Restyle.Target Restyle.Text Restyle.Vocabulary

/-! ## Presets -/

/-- Follows one directive. -/
def followDirective (p : PresetProgress) (property directive : String) :
    Check (Except Fault PresetProgress) :=
  if property = "radius" then
    match radiusScale.value? directive with
    | none => .ok (.ok p)
    | some value => do
      let corners ← entry definitions "radius"
      return .ok { p with
        writes := p.writes ++ [.token corners.token value]
        patch := addToPatch p.patch corners.path value }
  else .ok (Interpreter.followDirective p property directive)

theorem followDirective_checked (p : PresetProgress) (property directive : String) :
    followDirective p property directive =
      .ok (Interpreter.followDirective p property directive) := by
  unfold followDirective
  split
  · rename_i hp
    unfold Interpreter.followDirective
    rw [if_pos hp]
    cases radiusScale.value? directive with
    | none => rfl
    | some value =>
      dsimp only
      rw [entry_ok definition?_radius]
      rfl
  · rfl

/-- Follows directives in order. -/
def followDirectives (p : PresetProgress) :
    List (String × String) → Check (PresetProgress × Option Fault)
  | [] => .ok (p, none)
  | (property, directive) :: rest => do
    match ← followDirective p property directive with
    | .error fault => return (p, some fault)
    | .ok p => followDirectives p rest

theorem followDirectives_ok (p : PresetProgress) (directives : List (String × String)) :
    followDirectives p directives = .ok (Interpreter.followDirectives p directives) := by
  induction directives generalizing p with
  | nil => rfl
  | cons directive rest ih =>
    obtain ⟨property, word⟩ := directive
    rw [followDirectives, followDirective_checked, ok_bind, Interpreter.followDirectives]
    cases Interpreter.followDirective p property word with
    | error fault => rfl
    | ok p' => exact ih p'

/-- The plan of a preset. -/
def planPreset (rule : ForegroundRule) (store : TokenStore) (intent : Intent) : Check Plan :=
  let word := tableKey (intent.value.getD "")
  let name := (presetPhrases.meaning? word).getD word
  match preset? name with
  | none => do
    let message ← unknownPreset name
    return .answer (failure intent .unknownPreset message ("Unknown preset: " ++ name))
  | some preset => do
    let color ← fallback
    match ← followDirectives { working := store.get color.token } preset.directives with
    | (p, some fault) => return { writes := p.writes, reply := .error fault }
    | (p, none) =>
      let reply := success intent ("Applied \"" ++ name ++ "\" style: " ++ preset.description)
      return if p.recolored then
          { writes := p.writes ++ surfaceWrites rule color.token color.foreground p.working
            patch := addToPatch p.patch color.path p.working
            reply := .ok reply }
        else { writes := p.writes, patch := p.patch, reply := .ok reply }

theorem planPreset_ok (rule : ForegroundRule) (store : TokenStore) (intent : Intent) :
    planPreset rule store intent = .ok (Interpreter.planPreset rule store intent) := by
  unfold planPreset Interpreter.planPreset
  dsimp only
  cases preset? ((presetPhrases.meaning? (tableKey (intent.value.getD ""))).getD
      (tableKey (intent.value.getD ""))) with
  | none =>
    dsimp only
    rw [unknownPreset_ok]
    rfl
  | some preset =>
    dsimp only
    rw [fallback_ok, ok_bind, followDirectives_ok, ok_bind]
    cases Interpreter.followDirectives { working := store.get primary.token }
        preset.directives with
    | mk p fault =>
      cases fault with
      | none =>
        dsimp only
        split <;> rfl
      | some fault => rfl

/-! ## Style commands -/

/-- The plan of "more" or "less" of something. -/
def planRelative (rule : ForegroundRule) (store : TokenStore) (intent : Intent) (binding : Binding)
    (phrase : String) (direction : Direction) : Check Plan := do
  let bound := binding.definition
  match ← relativeChange store.get phrase direction bound.token with
  | .error fault => return { reply := .error fault }
  | .ok (.error e) =>
    return .answer (failure intent .unresolvableRelative e.message e.message)
  | .ok (.ok change) =>
    let reply := success intent ("Made " ++ phrase ++ " " ++ direction.name) binding.note
    return match change.scaleStep with
      | some (token, _) =>
        if token = bound.token then
          planValue rule token bound.foreground (some bound.path) change.newValue reply
        else
          planValue rule token none ((definitionOfToken? token).map (·.path)) change.newValue reply
      | none => planValue rule bound.token bound.foreground (some bound.path) change.newValue reply

theorem planRelative_ok (rule : ForegroundRule) (store : TokenStore) (intent : Intent)
    (binding : Binding) (phrase : String) (direction : Direction) :
    planRelative rule store intent binding phrase direction =
      .ok (Interpreter.planRelative rule store intent binding phrase direction) := by
  unfold planRelative Interpreter.planRelative
  dsimp only
  rw [relativeChange_ok, ok_bind]
  cases Change.relativeChange store.get phrase direction binding.definition.token with
  | error fault => rfl
  | ok result => cases result <;> rfl

/-- The value of a word for a token. -/
def absoluteValue (t : Thresholds) (token value : String) : Check (Option Found) :=
  if token = radiusScale.token then lookupRadius t value
  else if (scale? token).isSome then lookupScale t token value
  else if value != "" && isNotation value then do
    let stored ← normalize value
    return some { value := stored }
  else lookupColor t value

theorem absoluteValue_ok (t : Thresholds) (token value : String) :
    absoluteValue t token value = .ok (Interpreter.absoluteValue t token value) := by
  unfold absoluteValue Interpreter.absoluteValue
  split
  · exact lookupRadius_ok t value
  · cases hs : scale? token with
    | some s => exact lookupScale_ok t hs value
    | none =>
      simp only [Option.isSome_none, Bool.false_eq_true, if_false]
      split
      · rw [normalize_ok]
        rfl
      · exact lookupColor_ok t value

/-- The message for a value that a token cannot take. -/
def unknownValueMessage (token shown : String) : Check String :=
  if token = radiusScale.token then .ok (Message.invalidValue "corners" shown)
  else if (scale? token).isSome then .ok (Message.invalidValue token shown)
  else unknownColor shown

theorem unknownValueMessage_ok (token shown : String) :
    unknownValueMessage token shown = .ok (Interpreter.unknownValueMessage token shown) := by
  unfold unknownValueMessage Interpreter.unknownValueMessage
  split
  · rfl
  · split
    · rfl
    · exact unknownColor_ok shown

/-- The definition that an absolute command changes. -/
def absoluteDefinition (intent : Intent) (bound : Definition) (value : String) :
    Check Definition :=
  if (scale? bound.token).isNone && intent.isContextual && isRadiusWord value &&
      !isColorWord value then entry definitions "radius"
  else .ok bound

theorem absoluteDefinition_ok (intent : Intent) (bound : Definition) (value : String) :
    absoluteDefinition intent bound value =
      .ok (Interpreter.absoluteDefinition intent bound value) := by
  unfold absoluteDefinition Interpreter.absoluteDefinition
  split
  · exact entry_ok definition?_radius
  · rfl

/-- The plan of giving a token a value. -/
def planAbsolute (settings : Settings) (intent : Intent) (binding : Binding) : Check Plan := do
  let value := normalizeValue (intent.value.getD "")
  let definition ← absoluteDefinition intent binding.definition value
  let token := definition.token
  match ← absoluteValue settings.thresholds token value with
  | none =>
    let shown := orElse intent.value "value"
    let message ← unknownValueMessage token shown
    return .answer (failure intent .unknownValue message ("Unknown value: " ++ shown))
  | some found =>
    return planValue settings.foreground token definition.foreground (some definition.path)
      found.value (success intent
        ("Changed " ++ changedLabel intent token ++ " to " ++ intent.value.getD "")
        (found.note.or binding.note))

theorem planAbsolute_ok (settings : Settings) (intent : Intent) (binding : Binding) :
    planAbsolute settings intent binding =
      .ok (Interpreter.planAbsolute settings intent binding) := by
  unfold planAbsolute Interpreter.planAbsolute
  dsimp only
  rw [absoluteDefinition_ok, ok_bind, absoluteValue_ok, ok_bind]
  cases Interpreter.absoluteValue settings.thresholds
      (Interpreter.absoluteDefinition intent binding.definition
        (normalizeValue (intent.value.getD ""))).token
      (normalizeValue (intent.value.getD "")) with
  | none =>
    dsimp only
    rw [unknownValueMessage_ok]
    rfl
  | some found => rfl

/-- The plan of a style command. -/
def planStyle (settings : Settings) (store : TokenStore) (intent : Intent)
    (selection : Option Selection) : Check Plan := do
  match ← resolve scoreRounding (targetLimits settings.thresholds) intent selection with
  | .error e =>
    let message ← unknownTarget e.term
    return .answer (failure intent .unknownTarget message message)
  | .ok binding =>
    if binding.definition.category = .mode then return planMode store.mode intent.value
    else match intent.direction, intent.value with
      | some direction, some phrase =>
        if phrase = "" then planAbsolute settings intent binding
        else planRelative settings.foreground store intent binding phrase direction
      | _, _ => planAbsolute settings intent binding

theorem planStyle_ok (settings : Settings) (store : TokenStore) (intent : Intent)
    (selection : Option Selection) :
    planStyle settings store intent selection =
      .ok (Interpreter.planStyle settings store intent selection) := by
  unfold planStyle Interpreter.planStyle
  rw [resolve_ok, ok_bind]
  cases Target.resolve scoreRounding (targetLimits settings.thresholds) intent selection with
  | error e =>
    dsimp only
    rw [unknownTarget_ok]
    rfl
  | ok binding =>
    dsimp only
    split
    · rfl
    · cases intent.direction with
      | none => exact planAbsolute_ok settings intent binding
      | some direction =>
        cases intent.value with
        | none => exact planAbsolute_ok settings intent binding
        | some phrase =>
          dsimp only
          split
          · exact planAbsolute_ok settings intent binding
          · exact planRelative_ok _ _ _ _ _ _

/-! ## Intents -/

/-- The plan of an intent. -/
def planIntent (settings : Settings) (store : TokenStore) (intent : Intent)
    (selection : Option Selection) : Check Plan :=
  match intent.kind with
  | .unknown => do
    let message ← unparseable (trim intent.raw)
    return .answer (failure intent .unparseableCommand message "Could not parse command")
  | .preset => planPreset settings.foreground store intent
  | .style => planStyle settings store intent selection
  | _ => .ok (Interpreter.planIntent settings store intent selection)

/-- **Every intent is planned without a miss.** -/
theorem planIntent_ok (settings : Settings) (store : TokenStore) (intent : Intent)
    (selection : Option Selection) :
    planIntent settings store intent selection =
      .ok (Interpreter.planIntent settings store intent selection) := by
  unfold planIntent Interpreter.planIntent
  cases intent.kind with
  | unknown =>
    dsimp only
    rw [unparseable_ok]
    rfl
  | preset => exact planPreset_ok _ _ _
  | style => exact planStyle_ok _ _ _ _
  | _ => rfl

/-! ## Writes -/

/-- Makes one write. -/
def perform (store : TokenStore) : Write → Check (TokenStore × Interpreter.Change × List Delivery)
  | .token name value => do
    let new ← if plainTokens.contains name then .ok value else normalize value
    return ({ store with tokens := store.tokens.put name new }, ⟨name, store.get name, value⟩,
      store.deliveries ⟨name, store.get name, new⟩)
  | .mode m => .ok ((Write.mode m).perform store)

theorem perform_ok (store : TokenStore) (w : Write) : perform store w = .ok (w.perform store) := by
  cases w with
  | mode m => rfl
  | token name value =>
    unfold perform Write.perform TokenStore.set TokenStore.stored
    dsimp only
    split
    · rfl
    · rw [normalize_ok]
      rfl

/-- Makes writes in order. -/
def performWrites (store : TokenStore) :
    List Write → Check (TokenStore × List Interpreter.Change × List Delivery)
  | [] => .ok (store, [], [])
  | w :: rest => do
    let (store, change, heard) ← perform store w
    let (store, changes, others) ← performWrites store rest
    return (store, change :: changes, heard ++ others)

theorem performWrites_ok (store : TokenStore) (writes : List Write) :
    performWrites store writes = .ok (Interpreter.performWrites store writes) := by
  induction writes generalizing store with
  | nil => rfl
  | cons w rest ih =>
    rw [performWrites, perform_ok, ok_bind, Interpreter.performWrites]
    obtain ⟨after, change, heard⟩ := w.perform store
    dsimp only
    rw [ih, ok_bind]
    rfl

/-- Carries out an intent with every look-up checked. -/
def executeIntent (s : Session) (intent : Intent) (selection : Option Selection)
    (key : Option String) : Check Report := do
  let plan ← planIntent s.settings s.store intent selection
  let (store, changes, heard) ← performWrites s.store plan.writes
  match plan.reply with
  | .error fault => return { outcome := .error fault, session := { s with store }, heard }
  | .ok reply =>
    return {
      outcome := .ok { reply with changes }
      session := { s with store, collaborator := s.collaborator.persist key plan.patch }
      heard }

theorem executeIntent_ok (s : Session) (intent : Intent) (selection : Option Selection)
    (key : Option String) :
    executeIntent s intent selection key = .ok (s.executeIntent intent selection key) := by
  rw [executeIntent, planIntent_ok, ok_bind, performWrites_ok, ok_bind]
  unfold Session.executeIntent Session.carryOut
  cases (Interpreter.planIntent s.settings s.store intent selection).reply with
  | error fault => rfl
  | ok reply => rfl

/-- **No look-up ever misses**: with each of them checked, every intent comes to the same report,
whatever its words are and whatever the settings, the selection and the store are.  What stops an
intent is nothing but rounding: the step of a stored colour has a component that is not finite. -/
theorem lookups_never_miss (s : Session) (intent : Intent) (selection : Option Selection)
    (key : Option String) :
    executeIntent s intent selection key = .ok (s.executeIntent intent selection key) ∧
      ∀ fault, (s.executeIntent intent selection key).outcome = .error fault →
        FromRounding s.store fault := by
  refine ⟨executeIntent_ok s intent selection key, ?_⟩
  intro fault h
  exact planIntent_error (carryOut_error h).1

/-- A fault does come from rounding: softening a brand colour with a hue of 401 digits. -/
theorem lookups_never_miss_soften :
    let intent : Intent :=
      { kind := .preset, raw := "soften", confidence := 0, value := some "soften" }
    (hugeSession.executeIntent intent none (some "app")).outcome = .error (.rounding .infinite) ∧
      executeIntent hugeSession intent none (some "app") =
        .ok (hugeSession.executeIntent intent none (some "app")) ∧
      FromRounding hugeSession.store (.rounding .infinite) := by
  intro intent
  obtain ⟨hok, hfault⟩ := lookups_never_miss hugeSession intent none (some "app")
  have houtcome : (hugeSession.executeIntent intent none (some "app")).outcome =
      .error (.rounding .infinite) := by
    rw [Session.executeIntent, planIntent_soften rfl rfl hugeSession_step none]
    rfl
  exact ⟨houtcome, hok, hfault _ houtcome⟩

end Restyle.Checked
