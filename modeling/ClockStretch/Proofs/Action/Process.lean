import Mathlib.Tactic.Lemma

/-!
# Processes

A process takes steps from one state to the next, and a step may leave a mark. What each step keeps
of the state and of the marks so far, any steps in a row keep.
-/

namespace ClockStretch

/-- How steps change a state, and which of them leave a mark, by the state that they find. -/
structure Process (σ ι κ : Type) where
  next : ι → σ → σ
  mark? : ι → σ → Option κ

namespace Process

variable {σ ι κ : Type} (p : Process σ ι κ)

/-- The state after steps in a row. -/
def after : List ι → σ → σ
  | [],         s => s
  | i :: steps, s => after steps (p.next i s)

/-- The marks of steps in a row, in order. -/
def marks : List ι → σ → List κ
  | [],         _ => []
  | i :: steps, s => (p.mark? i s).toList ++ marks steps (p.next i s)

/-- What holds of the marks so far and the state, and is kept by every step, holds in the end. -/
theorem invariant {P : List κ → σ → Prop}
    (hstep : ∀ ks i s, P ks s → P (ks ++ (p.mark? i s).toList) (p.next i s)) (steps : List ι)
    {ks : List κ} {s : σ} (h : P ks s) : P (ks ++ p.marks steps s) (p.after steps s) := by
  induction steps generalizing ks s with
  | nil =>
    rw [marks, List.append_nil]
    exact h
  | cons i steps ih =>
    rw [marks, ← List.append_assoc]
    exact ih (hstep ks i s h)

end Process

end ClockStretch
