import ClockStretch.Proofs.Bank.Replay

/-!
# Timeouts applied to a bank

Which accesses the application of a timeout makes, and how it ends. Accesses may fail in the first
snapshot, at the write, when the register is read back and in the second snapshot, and each read
brings the failure of later ones nearer. A snapshot that fails stops reading, but only the write and
the read after it decide over the result.
-/

namespace ClockStretch.Bank

variable {b : Bank} {limit : Log.Limit}

/-- The reads of a snapshot that is taken to be told: none below the level of debugging. -/
def readsAt (limit : Log.Limit) (b : Bank) : List Access :=
  if limit = some .debug ∨ limit = some .trace then b.snapshotReads else []

lemma allows_debug_iff :
    limit.allows .debug = true ↔ limit = some .debug ∨ limit = some .trace := by
  cases limit with
  | none => decide
  | some max => cases max <;> decide

lemma state_tellSnapshot_upTo (limit : Log.Limit) (stage : Log.Stage) (b : Bank) :
    ((Controller.tellSnapshot block stage).run (.upTo limit) b).state =
      b.after (b.readsAt limit) := by
  rw [state_tellSnapshot, Log.Filter.enables_upTo, readsAt]
  simp only [allows_debug_iff]
  split_ifs <;> rfl

lemma exists_readsAt_eq (limit : Log.Limit) (b : Bank) :
    ∃ rs : List Register, b.readsAt limit = rs.map .read := by
  unfold readsAt
  split_ifs
  · exact ⟨_, rfl⟩
  · exact ⟨[], rfl⟩

/-- Reads have an influence on the countdown of a register, and on nothing else of it. -/
lemma exists_cell_after_readsAt (limit : Log.Limit) (b : Bank) (r : Register) :
    ∃ left, (b.after (b.readsAt limit)).cell r = { b.cell r with readsLeft := left } := by
  obtain ⟨rs, hreads⟩ := exists_readsAt_eq limit b
  rw [hreads]
  exact ⟨_, cell_after_reads b rs r⟩

lemma writesLeft_after_readsAt (limit : Log.Limit) (b : Bank) (r : Register) :
    ((b.after (b.readsAt limit)).cell r).writesLeft = (b.cell r).writesLeft := by
  obtain ⟨left, hcell⟩ := exists_cell_after_readsAt limit b r
  rw [hcell]

/-! ### Words -/

lemma word_after_readsAt (limit : Log.Limit) (b : Bank) (r : Register) :
    ((b.after (b.readsAt limit)).cell r).word = (b.cell r).word := by
  obtain ⟨left, hcell⟩ := exists_cell_after_readsAt limit b r
  rw [hcell]

/-- The write of an application writes to the word that the register has from the beginning. -/
lemma word_after_readsAt_write (limit : Log.Limit) (b : Bank) (q r : Register) (value : UInt32) :
    ((b.after (b.readsAt limit ++ [.write q value])).cell r).word =
      if r = q ∧ (b.cell q).writesLeft ≠ some 0 then (b.cell q).written value
      else (b.cell r).word := by
  obtain ⟨left, hcell⟩ := exists_cell_after_readsAt limit b q
  rw [after_append, word_after_write, word_after_readsAt, hcell]
  rfl

/-! ### Ways to end -/

section Ends

variable (limit) (timeout : Timeout)

/-- An application whose write fails ends with the write. -/
lemma apply_of_write_fails (hwrite : (b.cell .clockStretch).writesLeft = some 0) :
    let effect := (Controller.apply block timeout).run (.upTo limit) b
    effect.result = .error (.memory (failure .clockStretch)) ∧
      effect.state =
        b.after (b.readsAt limit ++ [.write .clockStretch timeout.cycles.toUInt32]) := by
  have hwrite' := (writesLeft_after_readsAt limit b .clockStretch).trans hwrite
  have hset := run_setClockStretchTimeout_of_write_fails (.upTo limit) timeout hwrite'
  rw [← state_tellSnapshot_upTo limit .before b] at hset
  have hrun := Controller.run_apply_of_error hset
  refine ⟨congrArg Effect.result hrun, (congrArg Effect.state hrun).trans ?_⟩
  rw [state_tellSnapshot_upTo, ← after_append]

/-- An application whose write cannot be read back ends with this read. -/
lemma apply_of_read_fails (hwrite : (b.cell .clockStretch).writesLeft ≠ some 0)
    (hread : ((b.after (b.readsAt limit)).cell .clockStretch).readsLeft = some 0) :
    let effect := (Controller.apply block timeout).run (.upTo limit) b
    effect.result = .error (.memory (failure .clockStretch)) ∧
      effect.state = b.after (b.readsAt limit ++
        [.write .clockStretch timeout.cycles.toUInt32, .read .clockStretch]) := by
  have hwrite' : ((b.after (b.readsAt limit)).cell .clockStretch).writesLeft ≠ some 0 := by
    rwa [writesLeft_after_readsAt]
  have hset := run_setClockStretchTimeout_of_read_fails (.upTo limit) timeout hwrite' hread
  rw [← state_tellSnapshot_upTo limit .before b] at hset
  have hrun := Controller.run_apply_of_error hset
  refine ⟨congrArg Effect.result hrun, (congrArg Effect.state hrun).trans ?_⟩
  rw [state_tellSnapshot_upTo, ← after_append]

/-- Any other application gives what it reads back, and ends with a second snapshot. -/
lemma apply_of_succeeds (hwrite : (b.cell .clockStretch).writesLeft ≠ some 0)
    (hread : ((b.after (b.readsAt limit)).cell .clockStretch).readsLeft ≠ some 0) :
    let effect := (Controller.apply block timeout).run (.upTo limit) b
    let readBack := b.after (b.readsAt limit ++
      [.write .clockStretch timeout.cycles.toUInt32, .read .clockStretch])
    effect.result = .ok (Controller.timeoutOf
        ((b.cell .clockStretch).written timeout.cycles.toUInt32 |||
          (b.cell .clockStretch).forced)) ∧
      effect.state = readBack.after (readBack.readsAt limit) := by
  obtain ⟨left, hcell⟩ := exists_cell_after_readsAt limit b .clockStretch
  have hwrite' : ((b.after (b.readsAt limit)).cell .clockStretch).writesLeft ≠ some 0 := by
    rwa [writesLeft_after_readsAt]
  have hset := run_setClockStretchTimeout_of_succeeds (.upTo limit) timeout hwrite' hread
  rw [hcell, ← state_tellSnapshot_upTo limit .before b] at hset
  have hrun := Controller.run_apply_of_ok hset
  refine ⟨congrArg Effect.result hrun, (congrArg Effect.state hrun).trans ?_⟩
  simp only [state_tellSnapshot_upTo, after_append]

end Ends

/-- What an application of a timeout does, access by access. At the levels of debugging and tracing
it starts with the reads of a snapshot, and otherwise with none. Then the timeout is written once;
if the write fails, so does the application, and no word has changed. Otherwise the register is
read back once; if this read fails, so does the application, but the word stays written. Otherwise
it gives the low sixteen bits of the word that is read, after a second snapshot at the same
levels. -/
theorem apply_access_by_access (limit : Log.Limit) (timeout : Timeout) (b : Bank) :
    let effect := (Controller.apply block timeout).run (.upTo limit) b
    let c := b.cell .clockStretch
    let write := Access.write .clockStretch timeout.cycles.toUInt32
    let read := Access.read .clockStretch
    let before := b.readsAt limit
    let written := b.after (before ++ [write])
    let readBack := b.after (before ++ [write, read])
    let word := (c.word &&& c.readOnly) ||| (timeout.cycles.toUInt32 &&& ~~~c.readOnly)
    if c.writesLeft = some 0 then
      effect.result = .error (.memory (failure .clockStretch)) ∧
      effect.state = written ∧
      written.accesses = b.accesses ++ (before ++ [write]) ∧
      ∀ r, (written.cell r).word = (b.cell r).word
    else if (written.cell .clockStretch).readsLeft = some 0 then
      effect.result = .error (.memory (failure .clockStretch)) ∧
      effect.state = readBack ∧
      readBack.accesses = b.accesses ++ (before ++ [write, read]) ∧
      ∀ r, (readBack.cell r).word = if r = .clockStretch then word else (b.cell r).word
    else
      let last := readBack.after (readBack.readsAt limit)
      (∃ tout, effect.result = .ok tout ∧ tout.toNat = (word ||| c.forced).toNat % 0x10000) ∧
      effect.state = last ∧
      last.accesses = b.accesses ++ (before ++ [write, read] ++ readBack.readsAt limit) ∧
      ∀ r, (last.cell r).word = if r = .clockStretch then word else (b.cell r).word := by
  intro effect c write read before written readBack word
  -- whether the register can be read back is settled by the reads before the write
  have hreadsLeft : (written.cell .clockStretch).readsLeft =
      ((b.after before).cell .clockStretch).readsLeft := by
    rw [show written = (b.after before).after [write] from after_append b before _,
      cell_after_write_self, Cell.readsLeft_afterWrite]
  have hwords (r : Register) : (written.cell r).word =
      if r = .clockStretch ∧ c.writesLeft ≠ some 0 then word else (b.cell r).word :=
    word_after_readsAt_write limit b .clockStretch r _
  have hreadBack (r : Register) : (readBack.cell r).word = (written.cell r).word := by
    rw [show readBack = written.after [read] by simp [readBack, written, ← after_append],
      word_after_read]
  split_ifs with hwrite hread
  · obtain ⟨hresult, hstate⟩ := apply_of_write_fails limit timeout hwrite
    refine ⟨hresult, hstate, accesses_after _ _, fun r => ?_⟩
    rw [hwords, if_neg fun h => h.2 hwrite]
  · obtain ⟨hresult, hstate⟩ := apply_of_read_fails limit timeout hwrite (hreadsLeft ▸ hread)
    refine ⟨hresult, hstate, accesses_after _ _, fun r => ?_⟩
    simp only [hreadBack, hwords, hwrite, ne_eq, not_false_eq_true, and_true]
  · obtain ⟨hresult, hstate⟩ := apply_of_succeeds limit timeout hwrite (hreadsLeft ▸ hread)
    refine ⟨⟨_, hresult, Controller.toNat_timeoutOf _⟩, hstate, ?_, fun r => ?_⟩
    · rw [accesses_after, accesses_after, List.append_assoc]
    · simp only [word_after_readsAt, hreadBack, hwords, hwrite, ne_eq, not_false_eq_true, and_true]

end ClockStretch.Bank
