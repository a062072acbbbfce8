import Restyle.Interpreter.Plan

/-!
# The cases of a plan

A text is planned by its intent, an intent by its kind, a style command by what it is bound to and
what it asks for, and a preset by its directives.  The few cases of each of these steps are said
here once, with what is known in each, so that what holds of every plan is shown case by case.

* `TextCase`, `IntentCase`, `StyleCase` — how a plan is chosen.
* `StepCase`, `FoundCase`, `ValueCase` — the plan of a step, how a value is found, and its plan.
* `DirectiveCase`, `PresetCase` — one directive, and the plan of a preset.
-/

set_option autoImplicit false

namespace Restyle.Interpreter

open Restyle.Change Restyle.Color Restyle.Command Restyle.Store Restyle.Sync Restyle.Target
  Restyle.Text Restyle.Vocabulary

/-! ## Presets -/

/-- What following one directive comes to. -/
inductive DirectiveCase (p : PresetProgress) (property word : String) : Prop
  /-- The directive sets the corners. -/
  | corners (value : String) (about : property = "radius")
    (known : radiusScale.value? word = some value)
    (result : followDirective p property word = .ok { p with
      writes := p.writes ++ [.token radius.token value]
      patch := addToPatch p.patch radius.path value })
  /-- The directive steps the working colour. -/
  | step (direction : Direction) (change : RelativeChange) (about : property ≠ "radius")
    (asks : directiveDirection? word = some direction)
    (stepped : adjustColor p.working direction property = .ok (.ok change))
    (result : followDirective p property word =
      .ok { p with working := change.newValue, recolored := true })
  /-- The working colour cannot be stepped. -/
  | fault (direction : Direction) (fault : Fault) (about : property ≠ "radius")
    (asks : directiveDirection? word = some direction)
    (stopped : adjustColor p.working direction property = .error fault)
    (result : followDirective p property word = .error fault)
  /-- The directive is left out. -/
  | skip (unknown : property = "radius" → radiusScale.value? word = none)
    (result : followDirective p property word = .ok p)

theorem followDirective_cases (p : PresetProgress) (property word : String) :
    DirectiveCase p property word := by
  by_cases about : property = "radius"
  · cases known : radiusScale.value? word with
    | none => exact .skip (fun _ => known) (by rw [followDirective, if_pos about, known])
    | some value =>
      exact .corners value about known (by rw [followDirective, if_pos about, known])
  · cases asks : directiveDirection? word with
    | none =>
      exact .skip (fun h => absurd h about) (by rw [followDirective, if_neg about, asks])
    | some direction =>
      cases adjusted : adjustColor p.working direction property with
      | error fault =>
        exact .fault direction fault about asks adjusted
          (by simp only [followDirective, if_neg about, asks, adjusted])
      | ok found =>
        cases found with
        | error failure =>
          exact .skip (fun h => absurd h about)
            (by simp only [followDirective, if_neg about, asks, adjusted])
        | ok change =>
          exact .step direction change about asks adjusted
            (by simp only [followDirective, if_neg about, asks, adjusted])

/-- The word for a preset that an intent gives, as the presets are named. -/
def presetName (intent : Intent) : String :=
  let word := tableKey (intent.value.getD "")
  (presetPhrases.meaning? word).getD word

/-- What the plan of a preset comes to. -/
inductive PresetCase (rule : ForegroundRule) (store : TokenStore) (intent : Intent) : Prop
  | unknown (missing : preset? (presetName intent) = none)
    (plan : planPreset rule store intent = .answer (failure intent .unknownPreset
      (Message.unknownPreset (presetName intent)) ("Unknown preset: " ++ presetName intent)))
  /-- A fault after the directives before it. -/
  | stopped (preset : Preset) (p : PresetProgress) (fault : Fault)
    (known : preset? (presetName intent) = some preset)
    (followed : followDirectives { working := store.get primary.token } preset.directives =
      (p, some fault))
    (plan : planPreset rule store intent = { writes := p.writes, reply := .error fault })
  /-- All directives are followed, perhaps to another brand colour. -/
  | applied (preset : Preset) (p : PresetProgress)
    (known : preset? (presetName intent) = some preset)
    (followed : followDirectives { working := store.get primary.token } preset.directives =
      (p, none))
    (plan : planPreset rule store intent =
      let reply := success intent
        ("Applied \"" ++ presetName intent ++ "\" style: " ++ preset.description)
      if p.recolored then
        { writes := p.writes ++ surfaceWrites rule primary.token primary.foreground p.working
          patch := addToPatch p.patch primary.path p.working
          reply := .ok reply }
      else { writes := p.writes, patch := p.patch, reply := .ok reply })

theorem planPreset_cases (rule : ForegroundRule) (store : TokenStore) (intent : Intent) :
    PresetCase rule store intent := by
  have plan : planPreset rule store intent = planPreset rule store intent := rfl
  conv at plan => rhs; unfold planPreset
  dsimp only at plan
  rw [← presetName] at plan
  cases known : preset? (presetName intent) with
  | none =>
    rw [known] at plan
    dsimp only at plan
    exact .unknown known plan
  | some preset =>
    rw [known] at plan
    dsimp only at plan
    rcases followed : followDirectives { working := store.get primary.token } preset.directives
      with ⟨p, _ | fault⟩
    · rw [followed] at plan
      exact .applied preset p known followed plan
    · rw [followed] at plan
      exact .stopped preset p fault known followed plan

/-! ## Style commands -/

/-- What the plan of a step comes to. -/
inductive StepCase (rule : ForegroundRule) (store : TokenStore) (intent : Intent)
    (binding : Binding) (phrase : String) (direction : Direction) : Prop
  | fault (fault : Fault)
    (stopped : relativeChange store.get phrase direction binding.definition.token = .error fault)
    (plan : planRelative rule store intent binding phrase direction = { reply := .error fault })
  | refused (reason : RelativeFailure)
    (found : relativeChange store.get phrase direction binding.definition.token =
      .ok (.error reason))
    (plan : planRelative rule store intent binding phrase direction =
      .answer (failure intent .unresolvableRelative reason.message reason.message))
  /-- The bound token is stepped. -/
  | bound (change : RelativeChange)
    (found : relativeChange store.get phrase direction binding.definition.token =
      .ok (.ok change))
    (own : ∀ token step, change.scaleStep = some (token, step) →
      token = binding.definition.token)
    (plan : planRelative rule store intent binding phrase direction =
      planValue rule binding.definition.token binding.definition.foreground
        (some binding.definition.path) change.newValue
        (success intent ("Made " ++ phrase ++ " " ++ direction.name) binding.note))
  /-- The token of another scale is stepped. -/
  | scale (change : RelativeChange) (token step : String)
    (found : relativeChange store.get phrase direction binding.definition.token =
      .ok (.ok change))
    (stepped : change.scaleStep = some (token, step))
    (other : token ≠ binding.definition.token)
    (plan : planRelative rule store intent binding phrase direction =
      planValue rule token none ((definitionOfToken? token).map (·.path)) change.newValue
        (success intent ("Made " ++ phrase ++ " " ++ direction.name) binding.note))

theorem planRelative_cases (rule : ForegroundRule) (store : TokenStore) (intent : Intent)
    (binding : Binding) (phrase : String) (direction : Direction) :
    StepCase rule store intent binding phrase direction := by
  have plan : planRelative rule store intent binding phrase direction =
      planRelative rule store intent binding phrase direction := rfl
  conv at plan => rhs; unfold planRelative
  dsimp only at plan
  cases found : relativeChange store.get phrase direction binding.definition.token with
  | error fault =>
    rw [found] at plan
    exact .fault fault found plan
  | ok result =>
    cases result with
    | error reason =>
      rw [found] at plan
      exact .refused reason found plan
    | ok change =>
      rw [found] at plan
      dsimp only at plan
      cases stepped : change.scaleStep with
      | none =>
        rw [stepped] at plan
        exact .bound change found (by simp [stepped]) plan
      | some scaleStep =>
        obtain ⟨token, step⟩ := scaleStep
        rw [stepped] at plan
        by_cases own : token = binding.definition.token
        · subst own
          exact .bound change found (by simp [stepped]) (plan.trans (if_pos rfl))
        · exact .scale change token step found stepped own (plan.trans (if_neg own))

/-- How the value of a word for a token is found. -/
inductive FoundCase (t : Thresholds) (token word : String) (found : Found) : Prop
  | corners (about : token = radiusScale.token) (known : lookupRadius t word = some found)
  | scale (s : Scale) (about : token ≠ radiusScale.token) (kept : scale? token = some s)
    (known : lookupScale t s word = some found)
  /-- The word is a colour as it is written. -/
  | written (about : token ≠ radiusScale.token) (color : scale? token = none)
    (spelled : (word != "" && isNotation word) = true) (stored : found.value = normalize word)
    (unnoted : found.note = none)
  | named (about : token ≠ radiusScale.token) (color : scale? token = none)
    (unspelled : (word != "" && isNotation word) = false) (known : lookupColor t word = some found)

theorem absoluteValue_cases {t : Thresholds} {token word : String} {found : Found}
    (h : absoluteValue t token word = some found) : FoundCase t token word found := by
  unfold absoluteValue at h
  by_cases about : token = radiusScale.token
  · rw [if_pos about] at h
    exact .corners about h
  · rw [if_neg about] at h
    cases kept : scale? token with
    | some s =>
      rw [kept] at h
      exact .scale s about kept h
    | none =>
      rw [kept] at h
      dsimp only at h
      cases spelled : word != "" && isNotation word with
      | true =>
        rw [if_pos spelled, Option.some.injEq] at h
        exact .written about kept spelled (by rw [← h]) (by rw [← h])
      | false =>
        rw [if_neg (by simp [spelled])] at h
        exact .named about kept spelled h

/-- What the plan of a value comes to. -/
inductive ValueCase (settings : Settings) (intent : Intent) (binding : Binding) : Prop
  | unknown (definition : Definition)
    (chosen : definition = absoluteDefinition intent binding.definition
      (normalizeValue (intent.value.getD "")))
    (unknown : absoluteValue settings.thresholds definition.token
      (normalizeValue (intent.value.getD "")) = none)
    (plan : planAbsolute settings intent binding = .answer (failure intent .unknownValue
      (unknownValueMessage definition.token (orElse intent.value "value"))
      ("Unknown value: " ++ orElse intent.value "value")))
  | found (definition : Definition) (found : Found)
    (chosen : definition = absoluteDefinition intent binding.definition
      (normalizeValue (intent.value.getD "")))
    (known : absoluteValue settings.thresholds definition.token
      (normalizeValue (intent.value.getD "")) = some found)
    (plan : planAbsolute settings intent binding =
      planValue settings.foreground definition.token definition.foreground (some definition.path)
        found.value (success intent ("Changed " ++ changedLabel intent definition.token ++ " to " ++
          intent.value.getD "") (found.note.or binding.note)))

theorem planAbsolute_cases (settings : Settings) (intent : Intent) (binding : Binding) :
    ValueCase settings intent binding := by
  cases known : absoluteValue settings.thresholds (absoluteDefinition intent binding.definition
      (normalizeValue (intent.value.getD ""))).token (normalizeValue (intent.value.getD "")) with
  | none => exact .unknown _ rfl known (by simp only [planAbsolute, known])
  | some found => exact .found _ found rfl known (by simp only [planAbsolute, known])

/-- How the plan of a style command is chosen. -/
inductive StyleCase (settings : Settings) (store : TokenStore) (intent : Intent)
    (selection : Option Selection) : Prop
  | unbound (unknown : UnknownTarget)
    (resolved : resolve Matching.scoreRounding (targetLimits settings.thresholds) intent selection =
      .error unknown)
    (plan : planStyle settings store intent selection = .answer (failure intent .unknownTarget
      (Message.unknownTarget unknown.term) (Message.unknownTarget unknown.term)))
  | mode (binding : Binding)
    (resolved : resolve Matching.scoreRounding (targetLimits settings.thresholds) intent selection =
      .ok binding)
    (category : binding.definition.category = .mode)
    (plan : planStyle settings store intent selection = planMode store.mode intent.value)
  | step (binding : Binding) (direction : Direction) (phrase : String)
    (resolved : resolve Matching.scoreRounding (targetLimits settings.thresholds) intent selection =
      .ok binding)
    (category : binding.definition.category ≠ .mode)
    (asks : intent.direction = some direction) (value : intent.value = some phrase)
    (present : phrase ≠ "")
    (plan : planStyle settings store intent selection =
      planRelative settings.foreground store intent binding phrase direction)
  /-- A direction without a word is no step. -/
  | value (binding : Binding)
    (resolved : resolve Matching.scoreRounding (targetLimits settings.thresholds) intent selection =
      .ok binding)
    (category : binding.definition.category ≠ .mode)
    (noStep : intent.direction = none ∨ intent.value.getD "" = "")
    (plan : planStyle settings store intent selection = planAbsolute settings intent binding)

theorem planStyle_cases (settings : Settings) (store : TokenStore) (intent : Intent)
    (selection : Option Selection) : StyleCase settings store intent selection := by
  cases resolved : resolve Matching.scoreRounding (targetLimits settings.thresholds) intent
      selection with
  | error unknown => exact .unbound unknown resolved (by simp only [planStyle, resolved])
  | ok binding =>
    by_cases category : binding.definition.category = .mode
    · exact .mode binding resolved category (by simp only [planStyle, resolved, category, if_true])
    · cases asks : intent.direction with
      | none =>
        exact .value binding resolved category (.inl asks)
          (by simp only [planStyle, resolved, category, if_false, asks])
      | some direction =>
        cases value : intent.value with
        | none =>
          exact .value binding resolved category (.inr (by rw [value]; rfl))
            (by simp only [planStyle, resolved, category, if_false, asks, value])
        | some phrase =>
          by_cases present : phrase = ""
          · exact .value binding resolved category (.inr (by rw [value]; exact present))
              (by simp only [planStyle, resolved, category, if_false, asks, value, present, if_true])
          · exact .step binding direction phrase resolved category asks value present
              (by simp only [planStyle, resolved, category, if_false, asks, value, present])

/-! ## All commands -/

/-- How the plan of an intent is chosen. -/
inductive IntentCase (settings : Settings) (store : TokenStore) (intent : Intent)
    (selection : Option Selection) : Prop
  /-- A reply alone. -/
  | answer (reply : Reply) (kind : intent.kind ≠ .preset ∧ intent.kind ≠ .style)
    (told : reply.kind = some intent.kind)
    (plan : planIntent settings store intent selection = .answer reply)
  | mode (kind : intent.kind = .mode)
    (plan : planIntent settings store intent selection = planMode store.mode intent.value)
  | preset (kind : intent.kind = .preset)
    (plan : planIntent settings store intent selection =
      planPreset settings.foreground store intent)
  | style (kind : intent.kind = .style)
    (plan : planIntent settings store intent selection = planStyle settings store intent selection)

theorem planIntent_cases (settings : Settings) (store : TokenStore) (intent : Intent)
    (selection : Option Selection) : IntentCase settings store intent selection := by
  cases kind : intent.kind with
  | unknown | undo | redo | visibility | layout =>
    apply IntentCase.answer
    case plan => rw [planIntent, kind]
    case kind => simp [kind]
    case told => rfl
  | mode => exact .mode kind (by simp only [planIntent, kind])
  | preset => exact .preset kind (by simp only [planIntent, kind])
  | style => exact .style kind (by simp only [planIntent, kind])

/-- How the plan of a text is chosen. -/
inductive TextCase (settings : Settings) (store : TokenStore) (text : String)
    (selection : Option Selection) : Prop
  | help (asks : asksForHelp text = true)
    (plan : planText settings store text selection =
      .answer { success := true, message := Message.help })
  /-- A word that is no direction stands in the place of one. -/
  | misread (reason : DirectionError) (asks : asksForHelp text = false)
    (read : parse text = .error reason)
    (plan : planText settings store text selection = { reply := .error (.direction reason) })
  | intent (intent : Intent) (asks : asksForHelp text = false) (read : parse text = .ok intent)
    (plan : planText settings store text selection = planIntent settings store intent selection)

theorem planText_cases (settings : Settings) (store : TokenStore) (text : String)
    (selection : Option Selection) : TextCase settings store text selection := by
  cases asks : asksForHelp text with
  | true => exact .help asks (by rw [planText, if_pos asks])
  | false =>
    have unasked : ¬asksForHelp text = true := by simp [asks]
    cases read : parse text with
    | error reason => exact .misread reason asks read (by rw [planText, if_neg unasked, read])
    | ok intent => exact .intent intent asks read (by rw [planText, if_neg unasked, read])

end Restyle.Interpreter
