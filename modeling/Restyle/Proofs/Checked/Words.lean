import Restyle.Interpreter.Lookup
import Restyle.Proofs.Assoc
import Restyle.Proofs.Change.Outcome
import Restyle.Proofs.Checked.Color
import Restyle.Proofs.Checked.Matching
import Restyle.Proofs.Target.Styled

/-!
# Binding words without a miss

Each scale has its default step among its steps and a value for every step, each matching gives
back one of the words that it was given, and the targets that are fallen back to are defined.  So
words are bound to values and to targets without a miss.

* `move_ok`, `relativeChange_ok` — steps of a scale.
* `lookupColor_ok`, `lookupRadius_ok`, `lookupScale_ok` — values of words.
* `resolve_ok` — the target of an intent.
-/

set_option autoImplicit false

namespace Restyle.Checked

open Restyle.Change Restyle.Command Restyle.Interpreter Restyle.Matching Restyle.Target
  Restyle.Text Restyle.Vocabulary

/-! ## Scales -/

/-- The step that lies so many steps further, or the last one on the way. -/
def move (s : Scale) (step : String) (count : Int) : Check String := do
  let index ← position s.steps (if step ∈ s.steps then step else s.defaultStep)
  item s.steps (max 0 (min ((s.steps.length : Int) - 1) (index + count))).toNat

theorem defaultStep_mem : ∀ s ∈ scales, s.defaultStep ∈ s.steps := by decide

theorem move_ok {s : Scale} (hs : s ∈ scales) (step : String) (count : Int) :
    move s step count = .ok (s.move step count) := by
  have hdefault := defaultStep_mem s hs
  have hmem : (if step ∈ s.steps then step else s.defaultStep) ∈ s.steps := by
    split
    · assumption
    · exact hdefault
  have hindex : s.steps.idxOf (if step ∈ s.steps then step else s.defaultStep) =
      s.indexOf step := by
    unfold Scale.indexOf
    by_cases h : step ∈ s.steps <;> simp [h]
  rw [move, position_ok hmem, ok_bind, hindex]
  unfold Scale.move
  dsimp only
  have hpos : 0 < s.steps.length := List.length_pos_of_mem hdefault
  have hlt : (max 0 (min ((s.steps.length : Int) - 1) (s.indexOf step + count))).toNat <
      s.steps.length := by omega
  rw [List.getElem?_eq_getElem hlt, item_ok (List.getElem?_eq_getElem hlt)]
  rfl

/-- Where the default step is none of the steps, an unknown step has no place to start from. -/
example : move { radiusScale with defaultStep := "round" } "wide" 1 = .error (.position "round") := by
  decide

/-- One step in a direction from a stored value. -/
def stepped (s : Scale) (value : String) (direction : Direction) : Check (String × String) := do
  let step ← move s (s.stepFor value) direction.sign
  let stored ← entry s.values step
  return (step, stored)

theorem stepped_ok {s : Scale} (hs : s ∈ scales) (value : String) (direction : Direction) :
    stepped s value direction = .ok (s.stepped value direction) := by
  have hstep := value?_isSome s hs _ (s.move_mem (s.stepFor value) direction.sign)
  obtain ⟨stored, hv⟩ := Option.isSome_iff_exists.1 hstep
  rw [stepped, move_ok hs, ok_bind, entry_ok hv, Scale.stepped, hv]
  rfl

/-- The change that a phrase and a direction ask for; a step of a colour looks nothing up. -/
def relativeChange (read : String → String) (phrase : String) (direction : Direction)
    (bound : String) : Check Outcome :=
  match propertyOf? phrase with
  | none => .ok (.ok (.error (.noProperty phrase)))
  | some (property, inverse) =>
    match scale? property with
    | some s => do
      let (step, newValue) ←
        stepped s (read s.token) (if inverse then direction.inverted else direction)
      return .ok (.ok { newValue, property := s.property, scaleStep := some (s.token, step) })
    | none => .ok (Change.relativeChange read phrase direction bound)

theorem relativeChange_ok (read : String → String) (phrase : String) (direction : Direction)
    (bound : String) : relativeChange read phrase direction bound =
      .ok (Change.relativeChange read phrase direction bound) := by
  unfold relativeChange
  cases hp : propertyOf? phrase with
  | none =>
    unfold Change.relativeChange
    rw [hp]
  | some found =>
    obtain ⟨property, inverse⟩ := found
    dsimp only
    cases hs : scale? property with
    | none => rfl
    | some s =>
      dsimp only
      rw [stepped_ok (scale?_mem hs).1, ok_bind]
      unfold Change.relativeChange
      rw [hp]
      dsimp only
      rw [hs]
      rfl

/-! ## Values -/

/-- The value of the known word that is nearest to a word. -/
def findNearest (values : Table) (limits : Limits) (term word : String) :
    Check (Option Found) := do
  match ← bestMatch scoreRounding limits word values.keys with
  | none => return none
  | some m =>
    let value ← entry values m.candidate
    return some { value, note := if m.exact then none else some (guessNote term m.candidate) }

/-- **Whatever is nearest to a word has a value.** -/
theorem findNearest_ok (values : Table) (limits : Limits) (term word : String) :
    findNearest values limits term word = .ok (findNearest? values limits term word) := by
  rw [findNearest, bestMatch_ok, ok_bind, findNearest?]
  cases hm : bestMatch? scoreRounding limits word values.keys with
  | none => rfl
  | some m =>
    have hmem : m.candidate ∈ Assoc.keys values := mem_of_bestMatch? hm
    obtain ⟨value, hv⟩ := Option.isSome_iff_exists.1 (Assoc.mem_keys_iff.1 hmem)
    have hlookup : values.lookup m.candidate = some value := hv
    dsimp only
    rw [entry_ok hlookup, ok_bind, Option.bind_eq_bind, Option.bind_some, hlookup]
    rfl

/-- The stored text of a colour word. -/
def lookupColor (t : Thresholds) (name : String) : Check (Option Found) :=
  let word := tableKey name
  match findKnown? colorValues colorWords word with
  | some found => .ok (some found)
  | none =>
    findNearest colorValues ⟨t.colorMaxDistance, t.colorMinSimilarity, t.usePhonetic⟩ name word

theorem lookupColor_ok (t : Thresholds) (name : String) :
    lookupColor t name = .ok (Interpreter.lookupColor t name) := by
  unfold lookupColor Interpreter.lookupColor
  dsimp only
  cases findKnown? colorValues colorWords (tableKey name) with
  | some found => rfl
  | none => exact findNearest_ok _ _ _ _

/-- The length of a corner word. -/
def lookupRadius (t : Thresholds) (term : String) : Check (Option Found) :=
  let word := tableKey term
  match findKnown? radiusValues radiusWords word with
  | some found => .ok (some found)
  | none => findNearest radiusValues (sizeLimits t) term word

theorem lookupRadius_ok (t : Thresholds) (term : String) :
    lookupRadius t term = .ok (Interpreter.lookupRadius t term) := by
  unfold lookupRadius Interpreter.lookupRadius
  dsimp only
  cases findKnown? radiusValues radiusWords (tableKey term) with
  | some found => rfl
  | none => exact findNearest_ok _ _ _ _

/-- The scale that is stored in a token. -/
def scaleOf (token : String) : Check Scale := entry (scales.map fun s => (s.token, s)) token

theorem scaleOf_ok {token : String} {s : Scale} (h : scale? token = some s) :
    scaleOf token = .ok s := by
  have hlookup : ∀ s ∈ scales, (scales.map fun s => (s.token, s)).lookup s.token = some s := by
    decide
  obtain ⟨hs, rfl⟩ := scale?_mem h
  exact entry_ok (hlookup s hs)

/-- The value of a size word on the scale of a token. -/
def lookupScale (t : Thresholds) (token term : String) : Check (Option Found) := do
  let s ← scaleOf token
  match s.valueOfTerm? term with
  | some (_, value) => return some { value }
  | none =>
    let m? ← bestMatch scoreRounding (sizeLimits t) (tableKey term)
      (s.aliases.keys ++ s.values.keys)
    return do
      let m ← m?
      let (_, value) ← s.valueOfTerm? m.candidate
      some { value, note := some (guessNote term m.candidate) }

theorem lookupScale_ok (t : Thresholds) {token : String} {s : Scale} (h : scale? token = some s)
    (term : String) : lookupScale t token term = .ok (Interpreter.lookupScale t s term) := by
  rw [lookupScale, scaleOf_ok h, ok_bind]
  unfold Interpreter.lookupScale
  cases s.valueOfTerm? term with
  | some found => rfl
  | none =>
    dsimp only
    rw [bestMatch_ok]
    rfl

/-! ## Targets -/

/-- The finding for the known name that is nearest to a form of a term. -/
def findNear (ρ : Rounding) (limits : Limits) (term form : String) : Check (Option Finding) := do
  let m? ← bestMatch ρ limits form targetWords.keys
  return do
    let m ← m?
    let name := (targetWords.meaning? m.candidate).getD m.candidate
    let definition ← definition? name
    some ⟨definition, if m.exact then none else some (guessNote term name)⟩

theorem findNear_ok (ρ : Rounding) (limits : Limits) (term form : String) :
    findNear ρ limits term form = .ok (findNear? ρ limits term form) := by
  rw [findNear, bestMatch_ok]
  rfl

/-- The finding for a term. -/
def resolveTerm (ρ : Rounding) (limits : Limits) (term : String) : Check (Option Finding) :=
  let form := comparisonForm term
  if form = "" then .ok none
  else match (lookupForms form).findSome? (findExact? term) with
    | some finding => .ok (some finding)
    | none => findNear ρ limits term form

theorem resolveTerm_ok (ρ : Rounding) (limits : Limits) (term : String) :
    resolveTerm ρ limits term = .ok (resolveTerm? ρ limits term) := by
  unfold resolveTerm resolveTerm?
  dsimp only
  split
  · rfl
  · cases (lookupForms (comparisonForm term)).findSome? (findExact? term) with
    | some finding => rfl
    | none => exact findNear_ok _ _ _ _

/-- The brand colour, which is fallen back to. -/
def fallback : Check Definition := entry definitions "primary"

theorem fallback_ok : fallback = .ok primary := entry_ok definition?_primary

/-- The token that stands for a kind of component. -/
def tokenOfComponent (kind : String) : Check String :=
  match tokensOfComponent kind with
  | [] => do
    let definition ← fallback
    return definition.token
  | tokens => item tokens 0

theorem tokenOfComponent_ok (kind : String) :
    tokenOfComponent kind = .ok (Target.tokenOfComponent kind) := by
  unfold tokenOfComponent Target.tokenOfComponent
  cases tokensOfComponent kind with
  | nil =>
    dsimp only
    rw [fallback_ok]
    rfl
  | cons token rest => rfl

/-- The binding of a command about the selection. -/
def resolveSelection (selection : Option Selection) : Check Binding :=
  match shapeOf selection with
  | .component kind id => do
    let token ← tokenOfComponent kind
    let definition ← match definitionOfToken? token with
      | some definition => .ok definition
      | none => fallback
    return { definition, reach := .component id }
  | .page => do
    let definition ← entry definitions "background"
    return { definition }
  | .other => do
    let definition ← fallback
    return { definition }
  | .none => do
    let definition ← fallback
    return { definition }

theorem resolveSelection_ok (selection : Option Selection) :
    resolveSelection selection = .ok (Target.resolveSelection selection) := by
  unfold resolveSelection Target.resolveSelection
  cases shapeOf selection with
  | component kind id =>
    dsimp only
    rw [tokenOfComponent_ok, ok_bind]
    cases definitionOfToken? (Target.tokenOfComponent kind) with
    | some definition => rfl
    | none =>
      dsimp only
      rw [fallback_ok]
      rfl
  | page =>
    dsimp only
    rw [entry_ok definition?_background]
    rfl
  | other =>
    dsimp only
    rw [fallback_ok]
    rfl
  | none =>
    dsimp only
    rw [fallback_ok]
    rfl

/-- The binding of an intent. -/
def resolve (ρ : Rounding) (limits : Limits) (intent : Intent) (selection : Option Selection) :
    Check (Except UnknownTarget Binding) :=
  let target := tableKey (intent.target.getD "")
  if intent.isContextual then do
    let binding ← resolveSelection selection
    return .ok binding
  else if target = "" then
    if isComponent selection then do
      let binding ← resolveSelection selection
      return .ok binding
    else do
      let definition ← fallback
      return .ok { definition }
  else do
    match ← resolveTerm ρ limits target with
    | some finding => return .ok { definition := finding.definition, note := finding.note }
    | none => return .error ⟨target⟩

/-- **Every intent is bound, or found to name nothing, without a miss.** -/
theorem resolve_ok (ρ : Rounding) (limits : Limits) (intent : Intent)
    (selection : Option Selection) :
    resolve ρ limits intent selection = .ok (Target.resolve ρ limits intent selection) := by
  unfold resolve Target.resolve
  dsimp only
  split
  · rw [resolveSelection_ok]
    rfl
  · split
    · split
      · rw [resolveSelection_ok]
        rfl
      · rw [fallback_ok]
        rfl
    · rw [resolveTerm_ok, ok_bind]
      cases resolveTerm? ρ limits (tableKey (intent.target.getD "")) with
      | some finding => rfl
      | none => rfl

end Restyle.Checked
