import ClockStretch.Proofs.Action.Keeping

/-!
# The controller by the accesses of its block

What setting the timeout and applying it do, given what the block of registers does at the accesses
they consist of. Reading the timeout masks the reserved bits of the word, so a timeout is found
again in the word that is written for it.
-/

namespace ClockStretch.Controller

open ClockStretch.Action

variable {σ : Type} {block : RegisterBlock σ} {filter : Log.Filter} {s s' s'' : σ}

/-- The timeout of a word is the number that its low sixteen bits make. -/
lemma toNat_timeoutOf (word : UInt32) : (timeoutOf word).toNat = word.toNat % 0x10000 := by
  have hmask : Register.timeoutMask.toNat = 2 ^ 16 - 1 := rfl
  rw [timeoutOf, UInt32.toNat_toUInt16, UInt32.toNat_and, hmask, Nat.and_two_pow_sub_one_eq_mod]
  omega

@[simp] lemma timeoutOf_toUInt32 (cycles : UInt16) : timeoutOf cycles.toUInt32 = cycles := by
  apply UInt16.toNat_inj.mp
  rw [toNat_timeoutOf, UInt16.toNat_toUInt32]
  exact Nat.mod_eq_of_lt cycles.toNat_lt

/-- The event that tells what was read back after a timeout was written. -/
def readBack (timeout : Timeout) (tout : UInt16) : Log.Event :=
  if tout = timeout.cycles then .timeoutSet tout else .readBackDiffers timeout.cycles tout

/-! ### Setting the timeout -/

lemma run_clockStretchTimeout_of_ok {word : UInt32} {told : List Log.Event}
    (h : (block.read .clockStretch).run filter s = ⟨.ok word, s', told⟩) :
    (clockStretchTimeout block).run filter s = ⟨.ok (timeoutOf word), s', told⟩ := by
  unfold clockStretchTimeout
  rw [run_bind_of_ok filter s (congrArg Effect.result h), h]
  simp

lemma run_clockStretchTimeout_of_error {e : Error} {told : List Log.Event}
    (h : (block.read .clockStretch).run filter s = ⟨.error e, s', told⟩) :
    (clockStretchTimeout block).run filter s = ⟨.error e, s', told⟩ := by
  unfold clockStretchTimeout
  rw [run_bind_of_error filter s (congrArg Effect.result h), h]

lemma setClockStretchTimeout_eq (timeout : Timeout) :
    setClockStretchTimeout block timeout = (do
      block.write .clockStretch timeout.cycles.toUInt32
      let tout ← clockStretchTimeout block
      Action.tell (readBack timeout tout)
      Pure.pure tout) := by
  unfold setClockStretchTimeout readBack
  congr
  funext _
  congr
  funext tout
  split_ifs <;> rfl

variable (block) in
lemma run_setClockStretchTimeout {word : UInt32} {told told' : List Log.Event} (timeout : Timeout)
    (hwrite : (block.write .clockStretch timeout.cycles.toUInt32).run filter s =
      ⟨.ok (), s', told⟩)
    (hread : (block.read .clockStretch).run filter s' = ⟨.ok word, s'', told'⟩) :
    (setClockStretchTimeout block timeout).run filter s =
      ⟨.ok (timeoutOf word), s'', told ++ (told' ++
        if filter.passes (readBack timeout (timeoutOf word)) then
          [readBack timeout (timeoutOf word)] else [])⟩ := by
  have hget := run_clockStretchTimeout_of_ok hread
  rw [setClockStretchTimeout_eq, run_bind_of_ok filter s (congrArg Effect.result hwrite), hwrite]
  simp only
  rw [run_bind_of_ok filter s' (congrArg Effect.result hget), hget]
  simp [run_tell_bind]

/-- After a write that fails nothing is read back. -/
lemma run_setClockStretchTimeout_of_write_error {e : Error} {told : List Log.Event}
    {timeout : Timeout}
    (hwrite : (block.write .clockStretch timeout.cycles.toUInt32).run filter s =
      ⟨.error e, s', told⟩) :
    (setClockStretchTimeout block timeout).run filter s = ⟨.error e, s', told⟩ := by
  rw [setClockStretchTimeout_eq, run_bind_of_error filter s (congrArg Effect.result hwrite), hwrite]

/-- Nothing is told of a timeout that cannot be read back. -/
lemma run_setClockStretchTimeout_of_read_error {e : Error} {told told' : List Log.Event}
    {timeout : Timeout}
    (hwrite : (block.write .clockStretch timeout.cycles.toUInt32).run filter s =
      ⟨.ok (), s', told⟩)
    (hread : (block.read .clockStretch).run filter s' = ⟨.error e, s'', told'⟩) :
    (setClockStretchTimeout block timeout).run filter s = ⟨.error e, s'', told ++ told'⟩ := by
  have hget := run_clockStretchTimeout_of_error hread
  rw [setClockStretchTimeout_eq, run_bind_of_ok filter s (congrArg Effect.result hwrite), hwrite]
  simp only
  rw [run_bind_of_error filter s' (congrArg Effect.result hget), hget]

/-! ### Applying the timeout -/

/-- After a failure no second snapshot is taken. -/
lemma run_apply_of_error {timeout : Timeout} {e : Error} {told : List Log.Event}
    (hset : (setClockStretchTimeout block timeout).run filter
      ((tellSnapshot block .before).run filter s).state = ⟨.error e, s', told⟩) :
    (apply block timeout).run filter s =
      ⟨.error e, s', ((tellSnapshot block .before).run filter s).events ++ told⟩ := by
  unfold apply
  rw [run_bind_of_ok filter s (tellSnapshot_result block .before filter s)]
  simp only
  rw [run_bind_of_error filter _ (congrArg Effect.result hset), hset]

lemma run_apply_of_ok {timeout : Timeout} {tout : UInt16} {told : List Log.Event}
    (hset : (setClockStretchTimeout block timeout).run filter
      ((tellSnapshot block .before).run filter s).state = ⟨.ok tout, s', told⟩) :
    (apply block timeout).run filter s =
      ⟨.ok tout, ((tellSnapshot block .after).run filter s').state,
        ((tellSnapshot block .before).run filter s).events ++
          (told ++ ((tellSnapshot block .after).run filter s').events)⟩ := by
  unfold apply
  rw [run_bind_of_ok filter s (tellSnapshot_result block .before filter s)]
  simp only
  rw [run_bind_of_ok filter _ (congrArg Effect.result hset), hset]
  simp only
  rw [run_bind_of_ok filter s' (tellSnapshot_result block .after filter s')]
  simp

end ClockStretch.Controller
