import ClockStretch.Log.Event

/-!
# Actions

An action works on a state, may fail, and tells what happens by events. What it did to the state
and what it told before a failure stays. It sees the filter of events, so that it can leave out
work whose only use is to be told.
-/

namespace ClockStretch

/-- What an action leaves: its result, the state, and the events that were let through. -/
structure Effect (σ α : Type) where
  result : Except Error α
  state : σ
  events : List Log.Event

/-- An action on a state. -/
def Action (σ α : Type) := Log.Filter → σ → Effect σ α

namespace Action

variable {σ τ α β : Type}

/-- The effect of an action under a filter, from a state. -/
def run (a : Action σ α) (filter : Log.Filter) (s : σ) : Effect σ α := a filter s

/-- The action that only gives a value. -/
def pure (x : α) : Action σ α := fun _ s => ⟨.ok x, s, []⟩

/-- One action and, if it succeeds, another that depends on its value. -/
def bind (a : Action σ α) (f : α → Action σ β) : Action σ β := fun filter s =>
  let first := a filter s
  match first.result with
  | .ok x    =>
    let second := f x filter first.state
    { second with events := first.events ++ second.events }
  | .error e => ⟨.error e, first.state, first.events⟩

instance : Monad (Action σ) where
  pure := Action.pure
  bind := Action.bind

/-- The action that fails. -/
def fail (e : Error) : Action σ α := fun _ s => ⟨.error e, s, []⟩

/-- The action that fails for a memory error. -/
def failMemory (e : MemoryError) : Action σ α := fail (.memory e)

/-- The value of a computation without effects. -/
def ofExcept (x : Except Error α) : Action σ α := fun _ s => ⟨x, s, []⟩

/-- The action that gives the state. -/
def get : Action σ σ := fun _ s => ⟨.ok s, s, []⟩

/-- The action that replaces the state. -/
def set (s : σ) : Action σ Unit := fun _ _ => ⟨.ok (), s, []⟩

/-- The action that tells an event. -/
def tell (e : Log.Event) : Action σ Unit := fun filter s =>
  ⟨.ok (), s, if filter.passes e then [e] else []⟩

/-- The action that is taken only if events of a target and a level are let through. -/
def whenEnabled (target : Log.Target) (level : Log.Level) (a : Action σ Unit) : Action σ Unit :=
  fun filter s => if filter.enables target level then a filter s else ⟨.ok (), s, []⟩

/-- The action that succeeds with the result of another, whether that one succeeds or fails. -/
def attempt (a : Action σ α) : Action σ (Except Error α) := fun filter s =>
  let effect := a filter s
  ⟨.ok effect.result, effect.state, effect.events⟩

end Action

end ClockStretch
