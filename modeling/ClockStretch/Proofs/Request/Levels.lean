import ClockStretch.Proofs.Action.Levels
import ClockStretch.Proofs.Window.Access

/-!
# Requests at different levels

How much is told has no influence on what a request does: under any limit it gives the same result
and leaves the same files as when everything is told, and it tells the same events in the same order
but for those that the limit holds back. This holds although registers are read only to tell them.
-/

namespace ClockStretch

open Comparison

variable {limit : Log.Limit}

namespace Window

lemma agree_readWord (w : Window) (offset : UInt64) :
    (levels limit Eq).Agree (w.readWord offset) (w.readWord offset) := by
  unfold readWord
  cases w.accepts offset with
  | false => exact Agree.fail_bind _ _ _
  | true =>
    exact (Agree.get fun _ _ h => h).bind fun fs =>
      (Agree.tell (alike_levels _)).bind fun _ => Agree.pure _

lemma agree_writeWord (w : Window) (offset : UInt64) (value : UInt32) :
    (levels limit Eq).Agree (w.writeWord offset value) (w.writeWord offset value) := by
  unfold writeWord
  cases w.accepts offset with
  | false => exact Agree.fail_bind _ _ _
  | true =>
    exact (Agree.tell (alike_levels _)).bind fun _ =>
      (Agree.get fun _ _ h => h).bind fun fs => Agree.set rfl

lemma agree_openAt (device : Path) (base length : UInt64) :
    (levels limit Eq).Agree (openAt device base length) (openAt device base length) := by
  unfold openAt
  cases refusal? base length with
  | some e => exact Agree.fail_bind _ _ _
  | none =>
    refine (Agree.get fun _ _ h => h).bind fun fs => ?_
    cases fs.openForWriting device with
    | error cause => exact Agree.fail _
    | ok file =>
      refine (Agree.tell (alike_levels _)).bind fun _ => ?_
      simp only
      split
      · exact Agree.fail_bind _ _ _
      · exact Agree.pure _

/-- The controller behind a window cannot be told apart at different levels. -/
lemma agree_apply_block (w : Window) (timeout : Timeout) :
    (levels limit Eq).Agree (Controller.apply w.block timeout)
      (Controller.apply w.block timeout) := by
  have hblock : (levels limit Eq).AgreeOn w.block w.block :=
    ⟨fun r => w.agree_readWord _, fun r value => w.agree_writeWord _ value⟩
  refine agree_apply hblock (fun e _ => alike_levels e) ?_ timeout
  refine agree_tellSnapshot_levels hblock ?_
  -- a word that is read matters even less than a register that is told
  intro hdebug fs r _
  refine keeps_readWord (fun _ _ => ?_) w _
  cases htrace : limit.allows .trace with
  | false => exact htrace
  | true =>
    have hallows : limit.allows .debug = true := Log.Limit.allows_of_rank_le (by decide) htrace
    rw [hallows] at hdebug
    cases hdebug

end Window

namespace Request

/-- A request at a level does what it does when everything is told, and tells the events of the
level among those that are told then. -/
theorem run_upTo_agrees_with_trace (r : Request) (device : Path) (limit : Log.Limit)
    (fs : FileSystem) :
    let effect := (r.run device).run (.upTo limit) fs
    let full := (r.run device).run (.upTo (some .trace)) fs
    effect.result = full.result ∧ effect.state = full.state ∧
      effect.events = full.events.filter fun e => limit.allows e.level := by
  have h : (levels limit Eq).Agree (r.run device) (r.run device) := by
    unfold run
    cases device.isEmpty with
    | true => exact Agree.fail_bind _ _ _
    | false =>
      refine (Agree.tell (alike_levels _)).bind fun _ => ?_
      refine (Window.agree_openAt device _ _).bind fun w => ?_
      refine (w.agree_apply_block r.timeout).bind fun tout => ?_
      exact (Agree.tell (alike_levels _)).bind fun _ => Agree.pure _
  have hmatch := h fs fs rfl
  exact ⟨hmatch.result, hmatch.state, hmatch.events_levels⟩

end Request

end ClockStretch
