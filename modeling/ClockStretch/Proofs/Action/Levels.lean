import ClockStretch.Proofs.Action.Comparison

/-!
# Levels of events

A run under a limit is compared with the run that tells everything: all events of the first count,
and of the second those that the limit lets through. A snapshot that is only taken in the second run
agrees with one that is left out, if its reads keep the states related.
-/

namespace ClockStretch

namespace Log

/-- A limit that lets a level through lets through all that matters more. -/
lemma Limit.allows_of_rank_le {limit : Limit} {level level' : Level}
    (h : level.rank ≤ level'.rank) (hallows : limit.allows level' = true) :
    limit.allows level = true := by
  cases limit with
  | none => simp [allows] at hallows
  | some max =>
    simp only [allows, decide_eq_true_eq] at hallows ⊢
    omega

@[simp] lemma Limit.allows_trace (level : Level) : Limit.allows (some .trace) level = true := by
  cases level <;> rfl

end Log

namespace Comparison

variable {σ : Type}

/-- A run under a limit beside a run that tells everything. -/
def levels (limit : Log.Limit) (Related : σ → σ → Prop) : Comparison σ σ where
  leftFilter := .upTo limit
  rightFilter := .upTo (some .trace)
  leftCounts _ := true
  rightCounts e := limit.allows e.level
  Related := Related

variable {limit : Log.Limit} {Related : σ → σ → Prop}

lemma alike_levels (e : Log.Event) : (levels limit Related).Alike e := by
  simp [Alike, levels]

/-- Under a limit just those events are told that the limit lets through. -/
lemma Matches.events_levels {α : Type} {e d : Effect σ α} (h : (levels limit Related).Matches e d) :
    e.events = d.events.filter fun event => limit.allows event.level :=
  (List.filter_eq_self.mpr fun _ _ => rfl).symm.trans h.events

/-- A snapshot that a limit leaves out agrees with one that is taken, if its reads keep the states
related and tell nothing that the limit lets through. -/
lemma agree_tellSnapshot_left_out {block : RegisterBlock σ} (hdebug : limit.allows .debug = false)
    (hkeeps : ∀ s r, r.readHasSideEffects = false →
      (block.read r).Keeps (Related s) fun e => limit.allows e.level = false)
    (stage : Log.Stage) :
    (levels limit Related).Agree (Controller.tellSnapshot block stage)
      (Controller.tellSnapshot block stage) := by
  intro s t hst
  have hleft : (Controller.tellSnapshot block stage).run (.upTo limit) s = ⟨.ok (), s, []⟩ := by
    rw [Controller.tellSnapshot, Action.run_whenEnabled]
    simp [hdebug]
  obtain ⟨hrelated, hquiet⟩ := Controller.keeps_tellSnapshot (hkeeps s)
    (fun e _ hlevel => by rw [hlevel, hdebug]) stage (.upTo (some .trace)) t hst
  refine ⟨?_, ?_, ?_⟩
  · rw [Controller.tellSnapshot_result, Controller.tellSnapshot_result]
  · simpa only [levels, hleft] using hrelated
  · simp only [levels, hleft, List.filter_nil]
    refine (List.filter_eq_nil_iff.mpr fun e he => ?_).symm
    simp [hquiet e he]

/-- A snapshot changes nothing that can be told apart, whether it is taken or left out. -/
lemma agree_tellSnapshot_levels {block : RegisterBlock σ}
    (h : (levels limit Related).AgreeOn block block)
    (hkeeps : limit.allows .debug = false → ∀ s r, r.readHasSideEffects = false →
      (block.read r).Keeps (Related s) fun e => limit.allows e.level = false)
    (stage : Log.Stage) :
    (levels limit Related).Agree (Controller.tellSnapshot block stage)
      (Controller.tellSnapshot block stage) := by
  cases hdebug : limit.allows .debug with
  | true =>
    refine agree_tellSnapshot h (fun e _ => alike_levels e) ?_ stage
    simp [levels, hdebug]
  | false => exact agree_tellSnapshot_left_out hdebug (hkeeps hdebug) stage

end Comparison

end ClockStretch
