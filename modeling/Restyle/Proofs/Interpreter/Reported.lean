import Restyle.Proofs.Interpreter.Carried
import Restyle.Proofs.Target.Guess

/-!
# Guesses are told

A style command that succeeds tells what was guessed: the word that its value was taken for, or
the name that its target was taken for.  There is one note in a reply, so that of a target is
left out where the value is guessed too.

* `isValueGuess` — whether the value of a command is a guess.
* `absoluteValue_note` — a value that is looked up has a note if it is one.
* `guesses_told` — every style command that succeeds.
* `guessed_target_not_told` — a target and a value, both guessed.
-/

set_option autoImplicit false

namespace Restyle.Interpreter

open Restyle.Change Restyle.Command Restyle.Matching Restyle.Store Restyle.Target Restyle.Text
  Restyle.Vocabulary

variable {values synonyms : Table} {term word : String} {found : Found}

/-! ## Looking values up -/

theorem findKnown?_note (h : findKnown? values synonyms word = some found) : found.note = none := by
  unfold findKnown? at h
  split at h
  · cases h
    rfl
  · simp only [Option.bind_eq_bind, Option.bind_eq_some_iff, Option.some_inj] at h
    obtain ⟨canonical, -, value, -, rfl⟩ := h
    rfl

/-- A value that is found by comparison has a note: a word that agrees with a known one is
known. -/
theorem findNearest?_note {limits : Limits} (hword : tableKey word = word)
    (hlower : ∀ {known}, known ∈ values.keys → lower known = known)
    (hunknown : findKnown? values synonyms word = none)
    (h : findNearest? values limits term word = some found) :
    ∃ known, values.lookup known = some found.value ∧
      found.note = some (guessNote term known) := by
  unfold findNearest? at h
  simp only [Option.bind_eq_bind, Option.bind_eq_some_iff] at h
  obtain ⟨m, hm, value, hv, h⟩ := h
  have hinexact : m.exact = false := by
    rw [Bool.eq_false_iff]
    intro he
    have hagrees : m.candidate = word :=
      calc m.candidate = lower m.candidate := (hlower (Checked.mem_of_bestMatch? hm)).symm
        _ = tableKey word := lower_of_bestMatch? hm he
        _ = word := hword
    simp [findKnown?, ← hagrees, hv] at hunknown
  rw [Option.some_inj] at h
  subst h
  exact ⟨m.candidate, hv, by simp [hinexact]⟩

theorem lower_of_colorValues {word : String} (h : word ∈ colorValues.keys) : lower word = word := by
  have hsmall : colorValues.keys.all isSmall = true := by decide +kernel
  exact lower_of_isSmall (List.all_eq_true.1 hsmall word h)

theorem lower_of_radiusValues {word : String} (h : word ∈ radiusValues.keys) :
    lower word = word := by
  have hsmall : radiusValues.keys.all isSmall = true := by decide +kernel
  exact lower_of_isSmall (List.all_eq_true.1 hsmall word h)

variable {t : Thresholds}

/-- What is found in a table has a note when neither the word nor its canonical word is known. -/
theorem known_or_nearest_note {limits : Limits}
    (hlower : ∀ {known}, known ∈ values.keys → lower known = known)
    (h : (findKnown? values synonyms (tableKey term)).or
      (findNearest? values limits term (tableKey term)) = some found) :
    ((findKnown? values synonyms (tableKey term)).isNone = true →
      ∃ known, values.lookup known = some found.value ∧
        found.note = some (guessNote term known)) ∧
    ((findKnown? values synonyms (tableKey term)).isNone = false → found.note = none) := by
  rcases Option.or_eq_some_iff.1 h with hknown | ⟨hunknown, hnear⟩
  · simp [hknown, findKnown?_note hknown]
  · have hnote := findNearest?_note (tableKey_tableKey term) hlower hunknown hnear
    simpa [hunknown] using hnote

theorem lookupScale_note {s : Scale} (h : lookupScale t s term = some found) :
    ((s.valueOfTerm? term).isNone = true →
      ∃ known, (s.valueOfTerm? known).map (·.2) = some found.value ∧
        found.note = some (guessNote term known)) ∧
    ((s.valueOfTerm? term).isNone = false → found.note = none) := by
  unfold lookupScale at h
  split at h
  · rename_i step value hterm
    cases h
    simp [hterm]
  · rename_i hterm
    simp only [Option.bind_eq_bind, Option.bind_eq_some_iff, Option.some_inj] at h
    obtain ⟨m, -, ⟨step, value⟩, hv, h⟩ := h
    subst h
    exact ⟨fun _ => ⟨m.candidate, by simp [hv], rfl⟩, fun hn => by simp [hterm] at hn⟩

/-- Whether a word for the value of a token is a guess: neither it nor its canonical word is
known. -/
def isWordGuess (token word : String) : Bool :=
  if token = radiusScale.token then (findKnown? radiusValues radiusWords (tableKey word)).isNone
  else match scale? token with
    | some s => (s.valueOfTerm? word).isNone
    | none => !(word != "" && Color.isNotation word) &&
        (findKnown? colorValues colorWords (tableKey word)).isNone

/-- What a known word stands for. -/
def valueOfWord? (token word : String) : Option String :=
  if token = radiusScale.token then radiusValues.lookup word
  else match scale? token with
    | some s => (s.valueOfTerm? word).map (·.2)
    | none => colorValues.lookup word

/-- **A value that is looked up has a note if and only if it is a guess**, and the note gives the
word that it was taken for. -/
theorem absoluteValue_note {token : String} (h : absoluteValue t token word = some found) :
    (isWordGuess token word = true → ∃ known, valueOfWord? token known = some found.value ∧
      found.note = some (guessNote word known)) ∧
    (isWordGuess token word = false → found.note = none) := by
  unfold isWordGuess valueOfWord?
  cases absoluteValue_cases h with
  | corners about known =>
    unfold lookupRadius at known
    simp only [if_pos about]
    exact known_or_nearest_note lower_of_radiusValues known
  | scale s about kept known =>
    simp only [if_neg about, kept]
    exact lookupScale_note known
  | written about color spelled stored unnoted =>
    simp [about, color, spelled, unnoted]
  | named about color unspelled known =>
    unfold lookupColor at known
    simpa only [if_neg about, color, unspelled, Bool.not_false, Bool.true_and] using
      known_or_nearest_note lower_of_colorValues known

/-! ## Style commands -/

/-- Whether a command asks for more or less of something. -/
def isStep (intent : Intent) : Bool := intent.direction.isSome && intent.value.getD "" != ""

/-- The word for the value of a command, and the token that is given it. -/
def askedWord (intent : Intent) (bound : Definition) : String × String :=
  let word := normalizeValue (intent.value.getD "")
  ((absoluteDefinition intent bound word).token, word)

/-- Whether the value of a command is a guess. -/
def isValueGuess (intent : Intent) (bound : Definition) : Bool :=
  !isStep intent && isWordGuess (askedWord intent bound).1 (askedWord intent bound).2

variable {settings : Settings} {store : TokenStore} {intent : Intent} {binding : Binding}
  {selection : Option Selection} {reply : Reply}

/-- What is told of the guesses of a command: what its value was taken for, and given to the
token, if it is one; else what its target was taken for, if it is one; and else nothing. -/
structure TellsGuesses (store : TokenStore) (intent : Intent) (binding : Binding)
    (note : Option String) (changes : List Change) : Prop where
  value : isValueGuess intent binding.definition = true → ∃ known value,
    valueOfWord? (askedWord intent binding.definition).1 known = some value ∧
      ⟨(askedWord intent binding.definition).1,
        store.get (askedWord intent binding.definition).1, value⟩ ∈ changes ∧
      note = some (guessNote (askedWord intent binding.definition).2 known)
  target : isValueGuess intent binding.definition = false → isTargetGuess intent = true →
    ∃ name, definition? name = some binding.definition ∧
      note = some (guessNote (tableKey (intent.target.getD "")) name)
  nothing : isValueGuess intent binding.definition = false → isTargetGuess intent = false →
    note = none

/-- A step tells of its target. -/
theorem planRelative_note {rule : Color.ForegroundRule} {phrase : String} {direction : Direction}
    (h : (planRelative rule store intent binding phrase direction).reply = .ok reply)
    (hs : reply.success = true) : reply.note = binding.note := by
  cases planRelative_cases rule store intent binding phrase direction with
  | fault fault stopped plan =>
    rw [plan] at h
    cases h
  | refused reason found plan =>
    rw [plan] at h
    cases h
    cases hs
  | bound change found own plan =>
    rw [plan] at h
    cases h
    rfl
  | scale change token step found stepped other plan =>
    rw [plan] at h
    cases h
    rfl

/-- A value that is given tells of itself, or else of the target. -/
theorem planAbsolute_note (h : (planAbsolute settings intent binding).reply = .ok reply)
    (hs : reply.success = true) : ∃ found,
      absoluteValue settings.thresholds (askedWord intent binding.definition).1
        (askedWord intent binding.definition).2 = some found ∧
      reply.note = found.note.or binding.note ∧
      ∃ rest, (planAbsolute settings intent binding).writes =
        .token (askedWord intent binding.definition).1 found.value :: rest := by
  cases planAbsolute_cases settings intent binding with
  | unknown definition chosen unknown plan =>
    rw [plan] at h
    cases h
    cases hs
  | found definition found chosen known plan =>
    subst chosen
    rw [plan] at h ⊢
    cases h
    exact ⟨found, known, rfl, _, rfl⟩

theorem planAbsolute_tells (hstep : isStep intent = false)
    (hnote : (isTargetGuess intent = true → ∃ name, definition? name = some binding.definition ∧
        binding.note = some (guessNote (tableKey (intent.target.getD "")) name)) ∧
      (isTargetGuess intent = false → binding.note = none))
    (h : (planAbsolute settings intent binding).reply = .ok reply) (hs : reply.success = true) :
    TellsGuesses store intent binding reply.note
      (performWrites store (planAbsolute settings intent binding).writes).2.1 := by
  obtain ⟨found, hfound, hreply, rest, hwrites⟩ := planAbsolute_note h hs
  obtain ⟨hguess, hknown⟩ := absoluteValue_note hfound
  have hvalue : isValueGuess intent binding.definition =
      isWordGuess (askedWord intent binding.definition).1
        (askedWord intent binding.definition).2 := by
    simp [isValueGuess, hstep]
  constructor
  · intro hg
    obtain ⟨known, hlookup, hn⟩ := hguess (hvalue ▸ hg)
    refine ⟨known, found.value, hlookup, ?_, by rw [hreply, hn, Option.some_or]⟩
    rw [hwrites, performWrites_cons]
    exact List.mem_cons_self
  · intro hg ht
    obtain ⟨name, hname, hn⟩ := hnote.1 ht
    exact ⟨name, hname, by rw [hreply, hknown (hvalue ▸ hg), Option.none_or, hn]⟩
  · intro hg ht
    rw [hreply, hknown (hvalue ▸ hg), Option.none_or, hnote.2 ht]

/-- **A style command that succeeds without switching the mode tells what was guessed.** -/
theorem planStyle_tells (h : (planStyle settings store intent selection).reply = .ok reply)
    (hs : reply.success = true) (hk : reply.kind = some .style) : ∃ binding,
      resolve scoreRounding (targetLimits settings.thresholds) intent selection = .ok binding ∧
      TellsGuesses store intent binding reply.note
        (performWrites store (planStyle settings store intent selection).writes).2.1 := by
  cases planStyle_cases settings store intent selection with
  | unbound unknown resolved plan =>
    rw [plan] at h
    cases h
    cases hs
  | mode binding resolved category plan =>
    rw [plan] at h
    cases h
    cases hk
  | step binding direction phrase resolved category asks value present plan =>
    have hnote := resolve_note resolved
    have hstep : isStep intent = true := by simp [isStep, asks, value, present]
    rw [plan] at h ⊢
    rw [planRelative_note h hs]
    exact ⟨binding, resolved, fun hg => by simp [isValueGuess, hstep] at hg, fun _ => hnote.1,
      fun _ => hnote.2⟩
  | value binding resolved category noStep plan =>
    have hstep : isStep intent = false := by
      rcases noStep with hd | hv
      · simp [isStep, hd]
      · simp [isStep, hv]
    rw [plan] at h ⊢
    exact ⟨binding, resolved, planAbsolute_tells hstep (resolve_note resolved) h hs⟩

theorem planPreset_kind {rule : Color.ForegroundRule}
    (h : (planPreset rule store intent).reply = .ok reply) : reply.kind = some intent.kind := by
  cases planPreset_cases rule store intent with
  | unknown missing plan =>
    rw [plan] at h
    cases h
    rfl
  | stopped preset p fault known followed plan =>
    rw [plan] at h
    cases h
  | applied preset p known followed plan =>
    rw [plan] at h
    dsimp only at h
    split at h
    · cases h
      rfl
    · cases h
      rfl

/-- What is reported as a style command was one. -/
theorem planIntent_style (h : (planIntent settings store intent selection).reply = .ok reply)
    (hk : reply.kind = some .style) :
    planIntent settings store intent selection = planStyle settings store intent selection := by
  cases planIntent_cases settings store intent selection with
  | answer told kind hkind plan =>
    rw [plan] at h
    cases h
    exact absurd (Option.some.inj (hkind.symm.trans hk)) kind.2
  | mode kind plan =>
    rw [plan] at h
    cases h
    cases hk
  | preset kind plan =>
    rw [plan] at h
    have hpreset := (planPreset_kind h).symm.trans hk
    rw [kind] at hpreset
    cases hpreset
  | style kind plan => exact plan

/-- **Every style command that succeeds tells what was guessed**: for a guessed value the word that
it was taken for, and for a guessed target, where the value is none, the name. -/
theorem guesses_told {s : Session} {text : String} {selection : Option Selection}
    {key : Option String} {r : Result} (h : (s.execute text selection key).outcome = .ok r)
    (hs : r.success = true) (hk : r.kind = some .style) : ∃ intent binding,
      parse text = .ok intent ∧
      resolve scoreRounding (targetLimits s.settings.thresholds) intent selection = .ok binding ∧
      TellsGuesses s.store intent binding r.note r.changes := by
  obtain ⟨hreply, hchanges, -, -⟩ := carryOut_ok h
  unfold planText at hreply hchanges
  split at hreply
  · injection hreply with hreply
    rw [← hreply] at hk
    cases hk
  · rename_i hhelp
    rw [if_neg hhelp] at hchanges
    split at hreply
    · cases hreply
    · rename_i intent hparse
      rw [hparse] at hchanges
      dsimp only at hchanges
      have hstyle := planIntent_style hreply hk
      rw [hstyle] at hreply hchanges
      obtain ⟨binding, hb, htells⟩ := planStyle_tells hreply hs hk
      exact ⟨intent, binding, hparse, hb, hchanges ▸ htells⟩

/-- A misspelt target that is given a known value. -/
theorem guesses_told_corners : ∃ r intent binding,
    (({} : Session).execute "make the conrers large" none none).outcome = .ok r ∧
      r.success = true ∧ r.kind = some .style ∧
      parse "make the conrers large" = .ok intent ∧
      resolve scoreRounding (targetLimits ({} : Session).settings.thresholds) intent none =
        .ok binding ∧
      TellsGuesses ({} : Session).store intent binding r.note r.changes := by
  obtain ⟨r, h, hr⟩ := exists_ok_of_map (b := (true, some IntentKind.style))
    (f := fun r => (r.success, r.kind))
    (o := (({} : Session).execute "make the conrers large" none none).outcome)
    (by decide +kernel)
  obtain ⟨hs, hk⟩ := Prod.mk.inj hr
  obtain ⟨intent, binding, hparse, hb, htells⟩ := guesses_told h hs hk
  exact ⟨r, intent, binding, h, hs, hk, hparse, hb, htells⟩

/-- The intent of a command in which both the target and the value are misspelt. -/
def misspeltCorners : Intent :=
  { kind := .style, confidence := 9 / 10, target := some "conrers", value := some "larg",
    raw := "make the conrers larg" }

/-- **A guessed target is not told where the value is guessed too**: "make the conrers larg" tells
of "larg" alone. -/
theorem guessed_target_not_told : ∃ binding r,
    parse "make the conrers larg" = .ok misspeltCorners ∧
      resolve scoreRounding (targetLimits ({} : Session).settings.thresholds) misspeltCorners none =
        .ok binding ∧
      binding.note = some "Interpreted \"conrers\" as \"radius\"" ∧
      (({} : Session).execute "make the conrers larg" none none).outcome = .ok r ∧
      r.success = true ∧ r.kind = some .style ∧
      r.note = some "Interpreted \"larg\" as \"large\"" := by
  obtain ⟨r, h, hr⟩ := exists_ok_of_map
    (b := (true, some IntentKind.style, some "Interpreted \"larg\" as \"large\""))
    (f := fun r => (r.success, r.kind, r.note))
    (o := (({} : Session).execute "make the conrers larg" none none).outcome)
    (by decide +kernel)
  obtain ⟨hs, hr⟩ := Prod.mk.inj hr
  obtain ⟨hk, hn⟩ := Prod.mk.inj hr
  refine ⟨_, r, by decide +kernel, rfl, ?_, h, hs, hk, hn⟩
  decide +kernel

end Restyle.Interpreter
