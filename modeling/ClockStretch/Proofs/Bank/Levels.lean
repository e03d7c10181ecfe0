import ClockStretch.Proofs.Action.Levels
import ClockStretch.Proofs.Bank.Replay

/-!
# Applications to a bank at different levels

How much is told has no influence on what the application of a timeout does to a bank, even if
accesses fail, as long as reads of the clock-stretch register always succeed or always fail. Where
snapshots are left out at one level and taken at another, the banks differ in the reads that were
made and in countdowns of reads, but not in what was written.
-/

namespace ClockStretch

/-- Whether an access is a write. -/
def Access.isWrite : Access → Bool
  | .read _    => false
  | .write _ _ => true

namespace Bank

open Comparison

variable {limit : Log.Limit} {b d : Bank}

/-- The writes of a bank in order, failed ones included. -/
def writes (b : Bank) : List Access := b.accesses.filter Access.isWrite

/-- Two banks whose words and writes are the same, and whose clock-stretch registers are the same in
all respects. Reads of this register always succeed or always fail. -/
structure HoldsAlike (b d : Bank) : Prop where
  words : ∀ r, (b.cell r).word = (d.cell r).word
  writes : b.writes = d.writes
  register : b.cell .clockStretch = d.cell .clockStretch
  constant : (b.cell .clockStretch).readsLeft = none ∨ (b.cell .clockStretch).readsLeft = some 0

lemma HoldsAlike.refl
    (h : (b.cell .clockStretch).readsLeft = none ∨ (b.cell .clockStretch).readsLeft = some 0) :
    HoldsAlike b b :=
  ⟨fun _ => rfl, rfl, rfl, h⟩

lemma HoldsAlike.symm (h : HoldsAlike b d) : HoldsAlike d b :=
  ⟨fun r => (h.words r).symm, h.writes.symm, h.register.symm, h.register ▸ h.constant⟩

/-- A read of any register of one bank makes no difference. -/
lemma HoldsAlike.read (h : HoldsAlike b d) (r : Register) : HoldsAlike b (d.after [.read r]) where
  words q := by rw [word_after_read, h.words]
  writes := by simpa [Bank.writes, Access.isWrite] using h.writes
  register := by
    by_cases hr : r = .clockStretch
    · subst hr
      rw [cell_after_read_self, Cell.afterRead_of_constant h.symm.constant, h.register]
    · rw [cell_after_read_of_ne d (Ne.symm hr), h.register]
  constant := h.constant

/-- The same write to both banks makes no difference. -/
lemma HoldsAlike.write (h : HoldsAlike b d) (value : UInt32) :
    HoldsAlike (b.after [.write .clockStretch value]) (d.after [.write .clockStretch value]) where
  words q := by rw [word_after_write, word_after_write, h.register, h.words]
  writes := by
    have hwrites := h.writes
    simp only [Bank.writes, accesses_after, List.filter_append] at hwrites ⊢
    rw [hwrites]
  register := by rw [cell_after_write_self, cell_after_write_self, h.register]
  constant := by
    rw [cell_after_write_self, Cell.readsLeft_afterWrite]
    exact h.constant

/-! ### Comparison -/

lemma keeps_holdsAlike_read (b : Bank) (r : Register) (Q : Log.Event → Prop) :
    (block.read r).Keeps (HoldsAlike b) Q := by
  intro filter d h
  rw [show block.read r = read r from rfl, run_read_eq]
  exact ⟨h.read r, by simp⟩

lemma agree_holdsAlike_read :
    (levels limit HoldsAlike).Agree (block.read .clockStretch) (block.read .clockStretch) := by
  intro b d h
  rw [show block.read .clockStretch = read .clockStretch from rfl]
  refine ⟨?_, ?_, ?_⟩
  · rw [run_read_eq, run_read_eq, h.register]
  · rw [run_read_eq, run_read_eq]
    exact (h.symm.read .clockStretch).symm.read .clockStretch
  · rw [run_read_eq, run_read_eq]
    rfl

lemma agree_holdsAlike_write (value : UInt32) :
    (levels limit HoldsAlike).Agree (block.write .clockStretch value)
      (block.write .clockStretch value) := by
  intro b d h
  rw [show block.write .clockStretch value = Bank.write .clockStretch value from rfl]
  refine ⟨?_, ?_, ?_⟩
  · rw [run_write_eq, run_write_eq, h.register]
  · rw [run_write_eq, run_write_eq]
    exact h.write value
  · rw [run_write_eq, run_write_eq]
    rfl

/-- The accesses to a bank have nothing to do with what is told. -/
lemma agreeOn_block : (levels limit Eq).AgreeOn block block where
  read r := by
    rintro b _ rfl
    rw [show block.read r = Bank.read r from rfl]
    refine ⟨?_, ?_, ?_⟩ <;> rw [run_read_eq, run_read_eq] <;> rfl
  write r value := by
    rintro b _ rfl
    rw [show block.write r value = Bank.write r value from rfl]
    refine ⟨?_, ?_, ?_⟩ <;> rw [run_write_eq, run_write_eq] <;> rfl

/-- Where the same snapshots are taken, all reads are the same. -/
lemma agree_apply_of_allows (hdebug : limit.allows .debug = true) (timeout : Timeout) :
    (levels limit Eq).Agree (Controller.apply block timeout) (Controller.apply block timeout) := by
  refine agree_apply agreeOn_block (fun e _ => alike_levels e) ?_ timeout
  refine agree_tellSnapshot agreeOn_block (fun e _ => alike_levels e) ?_
  simp [levels, hdebug]

/-- Where snapshots are taken on one side alone, their reads make no difference. -/
lemma agree_apply_of_not_allows (hdebug : limit.allows .debug = false) (timeout : Timeout) :
    (levels limit HoldsAlike).Agree (Controller.apply block timeout)
      (Controller.apply block timeout) := by
  refine Agree.apply ?_
    (agree_tellSnapshot_left_out hdebug fun b r _ => keeps_holdsAlike_read b r _)
  exact .setClockStretchTimeout agree_holdsAlike_write agree_holdsAlike_read
    (fun e _ => alike_levels e) timeout

/-- An application at a level beside one at which everything is told. -/
lemma apply_beside_trace (limit : Log.Limit) (timeout : Timeout) (b : Bank)
    (h : (b.cell .clockStretch).readsLeft = none ∨ (b.cell .clockStretch).readsLeft = some 0) :
    let effect := (Controller.apply block timeout).run (.upTo limit) b
    let full := (Controller.apply block timeout).run (.upTo (some .trace)) b
    effect.result = full.result ∧ effect.state.writes = full.state.writes ∧
      (∀ r, (effect.state.cell r).word = (full.state.cell r).word) ∧
      effect.events = full.events.filter fun e => limit.allows e.level := by
  intro effect full
  cases hdebug : limit.allows .debug with
  | true =>
    have hmatch := agree_apply_of_allows hdebug timeout b b rfl
    have hstate : effect.state = full.state := hmatch.state
    exact ⟨hmatch.result, by rw [hstate], fun r => by rw [hstate], hmatch.events_levels⟩
  | false =>
    have hmatch := agree_apply_of_not_allows hdebug timeout b b (.refl h)
    exact ⟨hmatch.result, hmatch.state.writes, hmatch.state.words, hmatch.events_levels⟩

/-- Where reads of the clock-stretch register always succeed or always fail, an application at any
two levels gives the same result, makes the same writes in the same order and leaves the same words;
and what is told at each level is what is told at the level of tracing but for the events that the
level holds back. -/
theorem apply_alike_at_levels (limit limit' : Log.Limit) (timeout : Timeout) (b : Bank)
    (h : (b.cell .clockStretch).readsLeft = none ∨ (b.cell .clockStretch).readsLeft = some 0) :
    let effect := (Controller.apply block timeout).run (.upTo limit) b
    let effect' := (Controller.apply block timeout).run (.upTo limit') b
    let full := (Controller.apply block timeout).run (.upTo (some .trace)) b
    effect.result = effect'.result ∧ effect.state.writes = effect'.state.writes ∧
      (∀ r, (effect.state.cell r).word = (effect'.state.cell r).word) ∧
      (effect.events = full.events.filter fun e => limit.allows e.level) ∧
      effect'.events = full.events.filter fun e => limit'.allows e.level := by
  intro effect effect' full
  obtain ⟨hresult, hwrites, hwords, hevents⟩ := apply_beside_trace limit timeout b h
  obtain ⟨hresult', hwrites', hwords', hevents'⟩ := apply_beside_trace limit' timeout b h
  exact ⟨hresult.trans hresult'.symm, hwrites.trans hwrites'.symm,
    fun r => (hwords r).trans (hwords' r).symm, hevents, hevents'⟩

/-- A bank whose status register can be read only once, so that the second snapshot fails, without
events and at the level of debugging. -/
theorem apply_alike_at_levels_of_failing_snapshot :
    let b : Bank :=
      ⟨fun r => ⟨0xab, 0xf0, 0x8, if r = .status then some 1 else none, some 1⟩, []⟩
    let timeout : Timeout := ⟨0x1234, by decide⟩
    let effect := (Controller.apply block timeout).run (.upTo none) b
    let effect' := (Controller.apply block timeout).run (.upTo (some .debug)) b
    let full := (Controller.apply block timeout).run (.upTo (some .trace)) b
    (b.cell .clockStretch).readsLeft = none ∧
      effect.result = effect'.result ∧ effect.state.writes = effect'.state.writes ∧
      (∀ r, (effect.state.cell r).word = (effect'.state.cell r).word) ∧
      (effect.events = full.events.filter fun e => Log.Limit.allows none e.level) ∧
      effect'.events = full.events.filter fun e => Log.Limit.allows (some .debug) e.level := by
  intro b timeout effect effect' full
  have h : (b.cell .clockStretch).readsLeft = none := rfl
  exact ⟨h, apply_alike_at_levels none (some .debug) timeout b (.inl h)⟩

end Bank

end ClockStretch
