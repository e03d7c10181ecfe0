import ClockStretch.Action
import Mathlib.Tactic.Lemma

/-!
# Running actions

The effect of each part of an action, and how two actions in a row compose, for a first one that
succeeds and one that fails. Where a filter has one limit for all targets, only the level of an
event counts.
-/

namespace ClockStretch

namespace Log.Filter

variable (limit : Limit) (target : Target) (level : Level)

@[simp] lemma enables_upTo : (upTo limit).enables target level = limit.allows level := rfl

@[simp] lemma passes_upTo (e : Event) : (upTo limit).passes e = limit.allows e.level := rfl

end Log.Filter

namespace Action

variable {σ α β : Type} (filter : Log.Filter) (s : σ)

@[simp] lemma run_pure (x : α) : (Pure.pure x : Action σ α).run filter s = ⟨.ok x, s, []⟩ := rfl

@[simp] lemma run_fail (e : Error) :
    (fail e : Action σ α).run filter s = ⟨.error e, s, []⟩ := rfl

@[simp] lemma run_failMemory (e : MemoryError) :
    (failMemory e : Action σ α).run filter s = ⟨.error (.memory e), s, []⟩ := rfl

@[simp] lemma run_ofExcept (x : Except Error α) :
    (ofExcept x : Action σ α).run filter s = ⟨x, s, []⟩ := rfl

@[simp] lemma run_get : (get : Action σ σ).run filter s = ⟨.ok s, s, []⟩ := rfl

@[simp] lemma run_set (t : σ) : (set t).run filter s = ⟨.ok (), t, []⟩ := rfl

@[simp] lemma run_tell (e : Log.Event) :
    (tell e).run filter s = ⟨.ok (), s, if filter.passes e then [e] else []⟩ := rfl

@[simp] lemma run_attempt (a : Action σ α) :
    a.attempt.run filter s =
      ⟨.ok (a.run filter s).result, (a.run filter s).state, (a.run filter s).events⟩ := rfl

lemma run_whenEnabled (target : Log.Target) (level : Log.Level) (a : Action σ Unit) :
    (whenEnabled target level a).run filter s =
      if filter.enables target level then a.run filter s else ⟨.ok (), s, []⟩ := rfl

/-- After a first action that succeeds, the second one goes on from its state. -/
lemma run_bind_of_ok {a : Action σ α} {f : α → Action σ β} {x : α}
    (h : (a.run filter s).result = .ok x) :
    (a >>= f).run filter s =
      let second := (f x).run filter (a.run filter s).state
      { second with events := (a.run filter s).events ++ second.events } := by
  show Action.bind a f filter s = _
  simp only [Action.bind]
  rw [show (a filter s).result = .ok x from h]
  rfl

/-- After a first action that fails, nothing more is done. -/
lemma run_bind_of_error {a : Action σ α} {f : α → Action σ β} {e : Error}
    (h : (a.run filter s).result = .error e) :
    (a >>= f).run filter s = ⟨.error e, (a.run filter s).state, (a.run filter s).events⟩ := by
  show Action.bind a f filter s = _
  simp only [Action.bind]
  rw [show (a filter s).result = .error e from h]
  rfl

@[simp] lemma run_fail_bind (e : Error) (f : α → Action σ β) :
    (fail e >>= f).run filter s = ⟨.error e, s, []⟩ := rfl

@[simp] lemma run_failMemory_bind (e : MemoryError) (f : α → Action σ β) :
    (failMemory e >>= f).run filter s = ⟨.error (.memory e), s, []⟩ := rfl

@[simp] lemma run_get_bind (f : σ → Action σ β) :
    (get >>= f).run filter s = (f s).run filter s := rfl

@[simp] lemma run_set_bind (t : σ) (f : Unit → Action σ β) :
    (set t >>= f).run filter s = (f ()).run filter t := rfl

lemma run_tell_bind (e : Log.Event) (f : Unit → Action σ β) :
    (tell e >>= f).run filter s =
      { (f ()).run filter s with
        events := (if filter.passes e then [e] else []) ++ ((f ()).run filter s).events } := rfl

end Action

end ClockStretch
