import Restyle.Proofs.Assoc
import Restyle.Proofs.Interpreter.Carried

/-!
# Tokens keep their kind

Whatever commands are given, one after another, the tokens of a fresh store stay the same ones,
colours stay colours, and the tokens of scales hold values of their scales.  A step of a colour
cannot reach the token of a scale, because no value of a scale is read as a colour.

* `wellKept_serve` — one command.
* `wellKept_run` — any number of commands.
* `tokens_keep_their_kind` — the same, token by token.
-/

set_option autoImplicit false

namespace Restyle.Interpreter

open Restyle.Change Restyle.Color Restyle.Store Restyle.Target Restyle.Vocabulary

/-! ## The invariant -/

/-- The tokens of a fresh store, each with a value that suits it. -/
structure WellKept (tokens : Tokens) : Prop where
  names : tokens.names = defaultTokens.names
  values : ∀ token ∈ defaultTokens.names, Suits token (tokens.get token)

instance (token value : String) : Decidable (Suits token value) :=
  if hr : token = radiusScale.token then
    decidable_of_iff (value ∈ radiusValues.map (·.2)) (by rw [hr, suits_radius])
  else match hs : scale? token with
    | some s => decidable_of_iff (value ∈ s.values.map (·.2)) (suits_of_scale hr hs).symm
    | none => decidable_of_iff (IsStored value) (suits_of_color hs).symm

theorem wellKept_defaultTokens : WellKept defaultTokens where
  names := rfl
  values := by decide +kernel

/-- A write of a value that is kept in a suitable form. -/
theorem WellKept.put {tokens : Tokens} (h : WellKept tokens) {name value : String}
    (hn : name ∈ defaultTokens.names) (hv : Suits name value) :
    WellKept (tokens.put name value) where
  names := by
    have hk : name ∈ Assoc.keys tokens := by
      rw [← Tokens.names, h.names]
      exact hn
    rw [Tokens.names, Tokens.put, Assoc.keys_put_of_mem hk, ← Tokens.names, h.names]
  values := by
    intro token ht
    rw [Tokens.get, Tokens.put, Assoc.get?_put]
    split
    · rename_i he
      rw [he]
      exact hv
    · exact h.values token ht

/-! ## One command -/

/-- Among well-kept tokens every assignment suits its token. -/
theorem Assignment.Allowed.suits {store : TokenStore} {a : Assignment} (h : a.Allowed store)
    (hk : WellKept store.tokens) : Suits a.definition.token a.value := by
  rcases h.value with hv | ⟨hv, hr⟩
  · exact hv
  · cases hs : scale? a.definition.token with
    | none => exact (suits_of_color hs).2 hv
    | some s =>
      -- the token of a scale holds no colour that a step could begin at
      have hsuits := hk.values _ (token_mem_names _ h.styled)
      rw [TokenStore.get, read?_of_suits hs hsuits] at hr
      cases hr

/-- A write of a value that suits the token once it is stored. -/
def Write.SuitsToken : Write → Prop
  | .token name value => name ∈ defaultTokens.names ∧ Suits name (TokenStore.stored name value)
  | .mode _ => True

theorem wellKept_perform {w : Write} (hw : w.SuitsToken) {store : TokenStore}
    (h : WellKept store.tokens) : WellKept (w.perform store).1.tokens := by
  cases w with
  | token name value => exact h.put hw.1 hw.2
  | mode m => exact h

theorem suitsToken_of_planned {rule : ForegroundRule} {store : TokenStore} {plan : Plan}
    (h : Planned rule store plan) (hdark : (Hsl.read? rule.dark).isSome = true)
    (hlight : (Hsl.read? rule.light).isSome = true) (hk : WellKept store.tokens) :
    ∀ w ∈ plan.writes, w.SuitsToken := by
  refine h.forall_writes (P := Write.SuitsToken) ?_ ?_ ?_
  · intro m
    trivial
  · intro a ha
    refine ⟨token_mem_names _ ha.styled, ?_⟩
    rw [ha.stored_eq]
    exact ha.suits hk
  · intro d hd f hf v hv
    obtain ⟨hn, hplain, hs, -⟩ := foreground_of_mem d hd f hf
    have hread : (Hsl.read? v).isSome = true := by
      rcases hv with rfl | rfl
      · exact hdark
      · exact hlight
    refine ⟨hn, ?_⟩
    rw [stored_of_color hplain, suits_of_color hs]
    exact isStored_normalize_of_read hread

variable {s : Session}

/-- One command, whatever it comes to. -/
theorem wellKept_serve (hdark : (Hsl.read? s.settings.foreground.dark).isSome = true)
    (hlight : (Hsl.read? s.settings.foreground.light).isSome = true)
    (hk : WellKept s.store.tokens) (request : Request) (selection : Option Selection)
    (key : Option String) :
    WellKept (s.serve request selection key).session.store.tokens := by
  rw [Session.serve_eq, (carryOut_store _ _ _).1]
  have hplan := planned_planRequest s.settings s.store request selection
  have hw := suitsToken_of_planned hplan hdark hlight hk
  exact performWrites_induction (P := fun store => WellKept store.tokens)
    (fun w hm store h => wellKept_perform (hw w hm) h) hk

/-! ## Runs -/

/-- Any number of commands. -/
theorem wellKept_run (hdark : (Hsl.read? s.settings.foreground.dark).isSome = true)
    (hlight : (Hsl.read? s.settings.foreground.light).isSome = true)
    (hk : WellKept s.store.tokens) (calls : List Call) :
    WellKept (s.serveAll calls).store.tokens := by
  induction calls generalizing s with
  | nil => exact hk
  | cons call rest ih =>
    have hset := s.settings_serve call.request call.selection call.key
    rw [Session.serveAll, List.foldl_cons]
    apply ih
    · rw [hset]
      exact hdark
    · rw [hset]
      exact hlight
    · exact wellKept_serve hdark hlight hk _ _ _

/-- **The tokens stay the same ones, colours stay colours, and the tokens of scales hold values
of their scales.** -/
theorem tokens_keep_their_kind (s : Session) (calls : List Call)
    (hstore : s.store.tokens = defaultTokens)
    (hdark : (Hsl.read? s.settings.foreground.dark).isSome = true)
    (hlight : (Hsl.read? s.settings.foreground.light).isSome = true) :
    let tokens := (s.serveAll calls).store.tokens
    tokens.names = defaultTokens.names ∧
    (∀ token ∈ tokens.names, token ∉ ["radius", "spacing", "font-size", "font-weight"] →
      (Hsl.read? (tokens.get token)).isSome = true) ∧
    tokens.get "radius" ∈ radiusValues.map (·.2) ∧
    tokens.get "spacing" ∈ spacingScale.values.map (·.2) ∧
    tokens.get "font-size" ∈ fontSizeScale.values.map (·.2) ∧
    tokens.get "font-weight" ∈ fontWeightScale.values.map (·.2) := by
  intro tokens
  have hk : WellKept tokens := by
    apply wellKept_run hdark hlight
    rw [hstore]
    exact wellKept_defaultTokens
  refine ⟨hk.names, ?_, ?_, ?_, ?_, ?_⟩
  · intro token ht hn
    rw [hk.names] at ht
    have hs : scale? token = none := by
      cases h : scale? token with
      | none => rfl
      | some s =>
        obtain ⟨hm, rfl⟩ := scale?_mem h
        exact absurd (List.mem_map_of_mem hm) hn
    exact ((suits_of_color hs).1 (hk.values token ht)).read
  · exact suits_radius.1 (hk.values "radius" (by decide))
  · exact (suits_of_scale (by decide) rfl).1 (hk.values "spacing" (by decide))
  · exact (suits_of_scale (by decide) rfl).1 (hk.values "font-size" (by decide))
  · exact (suits_of_scale (by decide) rfl).1 (hk.values "font-weight" (by decide))

/-- A fresh session with the default settings. -/
theorem fresh_tokens_keep_their_kind :
    let tokens := (Session.serveAll {} [⟨.text "make it pop", none, none⟩,
      ⟨.text "make the corners sharper", none, some "app"⟩]).store.tokens
    tokens.names = defaultTokens.names ∧ tokens.get "radius" ∈ radiusValues.map (·.2) := by
  intro tokens
  have h := tokens_keep_their_kind {} [⟨.text "make it pop", none, none⟩,
    ⟨.text "make the corners sharper", none, some "app"⟩] rfl (by decide +kernel)
    (by decide +kernel)
  exact ⟨h.1, h.2.2.1⟩

end Restyle.Interpreter
