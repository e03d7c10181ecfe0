import ClockStretch.Proofs.Action.Comparison
import Mathlib.Data.List.Forall2

/-!
# Operations one after another

All that can be asked of a controller, as data: single accesses to its registers, reading and
setting its timeout, taking a snapshot of it and applying a timeout. Operations are carried out in a
row, each under a filter of its own and each on the state that the one before left, failed or not.
If the accesses of two blocks agree, the operations in a row agree step by step.
-/

namespace ClockStretch

namespace Controller

/-- What can be asked of a controller. -/
inductive Operation where
  | read (r : Register)
  | write (r : Register) (value : UInt32)
  | timeout
  | setTimeout (timeout : Timeout)
  | snapshot
  | apply (timeout : Timeout)

/-- What a controller answers. -/
inductive Answer where
  | written
  | word (value : UInt32)
  | timeout (cycles : UInt16)
  | snapshot (s : Snapshot)

variable {σ τ : Type}

/-- An operation on the controller behind a block of registers. -/
def perform (block : RegisterBlock σ) : Operation → Action σ Answer
  | .read r             => do
    let value ← block.read r
    pure (.word value)
  | .write r value      => do
    block.write r value
    pure .written
  | .timeout            => do
    let cycles ← clockStretchTimeout block
    pure (.timeout cycles)
  | .setTimeout timeout => do
    let cycles ← setClockStretchTimeout block timeout
    pure (.timeout cycles)
  | .snapshot           => do
    let s ← snapshot block
    pure (.snapshot s)
  | .apply timeout      => do
    let cycles ← apply block timeout
    pure (.timeout cycles)

/-- The effects of operations one after another. -/
def effects (block : RegisterBlock σ) : List (Log.Filter × Operation) → σ → List (Effect σ Answer)
  | [],                           _ => []
  | (filter, operation) :: steps, s =>
    let effect := (perform block operation).run filter s
    effect :: effects block steps effect.state

end Controller

namespace Comparison

open Controller

variable {σ τ : Type} {b : RegisterBlock σ} {c : RegisterBlock τ}

/-- One operation on two blocks whose accesses agree. -/
lemma agree_perform {v : Comparison σ τ} (h : v.AgreeOn b c)
    (htell : ∀ e : Log.Event, e.target = .controller → v.Alike e)
    (hsnapshot : ∀ stage, v.Agree (tellSnapshot b stage) (tellSnapshot c stage))
    (operation : Operation) : v.Agree (perform b operation) (perform c operation) := by
  cases operation with
  | read r => exact (h.read r).bind fun _ => Agree.pure _
  | write r value => exact (h.write r value).bind fun _ => Agree.pure _
  | timeout => exact (agree_clockStretchTimeout h).bind fun _ => Agree.pure _
  | setTimeout timeout =>
    exact (agree_setClockStretchTimeout h htell timeout).bind fun _ => Agree.pure _
  | snapshot => exact (agree_readAll h Register.all .none).bind fun _ => Agree.pure _
  | apply timeout => exact (agree_apply h htell hsnapshot timeout).bind fun _ => Agree.pure _

/-- Two runs under one filter, of which the window tells its accesses only in the first one. -/
def besideWindow (Related : σ → τ → Prop) (filter : Log.Filter) : Comparison σ τ where
  leftFilter := filter
  rightFilter := filter
  leftCounts e := e.target ≠ .window
  rightCounts _ := true
  Related := Related

variable {Related : σ → τ → Prop}

lemma alike_besideWindow {filter : Log.Filter} {e : Log.Event} (h : e.target ≠ .window) :
    (besideWindow Related filter).Alike e := by
  simp [Alike, besideWindow, h]

/-- Operations in a row match step by step. -/
lemma forall₂_effects (h : ∀ filter, (besideWindow Related filter).AgreeOn b c)
    (steps : List (Log.Filter × Operation)) {s : σ} {t : τ} (hst : Related s t) :
    List.Forall₂ (fun e d => e.result = d.result ∧ Related e.state d.state ∧
        (e.events.filter fun event => event.target ≠ .window) = d.events)
      (effects b steps s) (effects c steps t) := by
  induction steps generalizing s t with
  | nil => exact .nil
  | cons step steps ih =>
    obtain ⟨filter, operation⟩ := step
    have htell : ∀ e : Log.Event, e.target = .controller → (besideWindow Related filter).Alike e :=
      fun e he => alike_besideWindow (by simp [he])
    obtain ⟨hresult, hstate, hevents⟩ := agree_perform (h filter) htell
      (agree_tellSnapshot (h filter) htell rfl) operation s t hst
    refine .cons ⟨hresult, hstate, ?_⟩ (ih hstate)
    exact hevents.trans (List.filter_eq_self.mpr fun _ _ => rfl)

end Comparison

end ClockStretch
