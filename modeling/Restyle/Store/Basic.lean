import Restyle.Color.Notation
import Restyle.Store.Tokens

/-!
# The token store

The store holds the tokens and the mode, and tells its subscribers of every write.  Colours
are brought into their stored form when they are written; lengths and weights are kept as
they are.  A subscriber that fails hears nothing and disturbs nobody.

* `TokenStore.set`, `TokenStore.setMode` — a write, with what the subscribers hear of it.
* `TokenStore.subscribe`, `TokenStore.unsubscribe` — a subscription and its handle.
-/

set_option autoImplicit false

namespace Restyle.Store

/-- A write, as subscribers hear of it. -/
structure Event where
  token : String
  oldValue : String
  newValue : String
  deriving DecidableEq, Repr

/-- A subscription. -/
structure Subscriber where
  /-- What a subscription is cancelled by; no two of a store have the same. -/
  handle : Nat
  name : String
  /-- Whether it fails at every event. -/
  failing : Bool := false
  deriving DecidableEq, Repr

/-- An event that a subscriber heard. -/
structure Delivery where
  subscriber : Subscriber
  event : Event
  deriving DecidableEq, Repr

/-- Tokens, mode and subscribers. -/
structure TokenStore where
  defaults : Tokens := defaultTokens
  defaultMode : Mode := .light
  tokens : Tokens := defaults
  mode : Mode := defaultMode
  subscribers : List Subscriber := []
  nextHandle : Nat := 0
  deriving DecidableEq, Repr

namespace TokenStore

/-- A store with the given tokens and mode, which a reset goes back to. -/
def fresh (defaults : Tokens) (mode : Mode) : TokenStore :=
  { defaults, defaultMode := mode }

/-- The value of a token. -/
def get (s : TokenStore) (token : String) : String := s.tokens.get token

/-- The form in which a token keeps a value. -/
def stored (token value : String) : String :=
  if plainTokens.contains token then value else Color.normalize value

/-- What the subscribers hear of an event, in the order of their subscriptions. -/
def deliveries (s : TokenStore) (event : Event) : List Delivery :=
  (s.subscribers.filter fun u => !u.failing).map fun u => ⟨u, event⟩

/-- Writes a token. -/
def set (s : TokenStore) (token value : String) : TokenStore × List Delivery :=
  let new := stored token value
  let event : Event := ⟨token, s.get token, new⟩
  ({ s with tokens := s.tokens.put token new }, s.deliveries event)

/-- Writes the mode. -/
def setMode (s : TokenStore) (mode : Mode) : TokenStore × List Delivery :=
  let event : Event := ⟨"mode", s.mode.name, mode.name⟩
  ({ s with mode }, s.deliveries event)

/-- Goes back to the first tokens and mode; nobody hears of it. -/
def reset (s : TokenStore) : TokenStore := { s with tokens := s.defaults, mode := s.defaultMode }

/-- Adds a subscriber, and gives the handle of its subscription. -/
def subscribe (s : TokenStore) (name : String) (failing : Bool) : TokenStore × Nat :=
  ({ s with
      subscribers := s.subscribers ++ [{ handle := s.nextHandle, name, failing }]
      nextHandle := s.nextHandle + 1 },
    s.nextHandle)

/-- Cancels the subscription of a handle, if it still stands. -/
def unsubscribe (s : TokenStore) (handle : Nat) : TokenStore :=
  { s with subscribers := s.subscribers.filter fun u => u.handle != handle }

end TokenStore

end Restyle.Store
