import ClockStretch.Proofs.Bank.Access
import ClockStretch.Proofs.Controller.Effect

/-!
# Banks after accesses

What accesses one after the other make of a bank, failed ones included, and which accesses a
snapshot and the setting of a timeout consist of. A snapshot reads up to the first register whose
read fails; as each register is read once, which one that is can be seen from the bank that it
starts with.
-/

namespace ClockStretch

namespace Cell

/-- A register after a read: a countdown goes on, and stays at zero. -/
def afterRead (c : Cell) : Cell := { c with readsLeft := c.readsLeft.map (· - 1) }

/-- A register whose reads always succeed or always fail is not changed by a read. -/
lemma afterRead_of_constant {c : Cell} (h : c.readsLeft = none ∨ c.readsLeft = some 0) :
    c.afterRead = c := by
  obtain ⟨word, readOnly, forced, readsLeft, writesLeft⟩ := c
  rcases h with rfl | rfl <;> rfl

/-- A register after a write: a write that fails leaves it as it is. -/
def afterWrite (c : Cell) (value : UInt32) : Cell :=
  if c.writesLeft = some 0 then c
  else { c with word := c.written value, writesLeft := c.writesLeft.map (· - 1) }

@[simp] lemma readsLeft_afterWrite (c : Cell) (value : UInt32) :
    (c.afterWrite value).readsLeft = c.readsLeft := by
  unfold afterWrite
  split_ifs <;> rfl

@[simp] lemma forced_afterWrite (c : Cell) (value : UInt32) :
    (c.afterWrite value).forced = c.forced := by
  unfold afterWrite
  split_ifs <;> rfl

lemma word_afterWrite {c : Cell} (h : c.writesLeft ≠ some 0) (value : UInt32) :
    (c.afterWrite value).word = c.written value := by
  rw [afterWrite, if_neg h]

@[simp] lemma shown_afterRead (c : Cell) : c.afterRead.shown = c.shown := rfl

lemma shown_afterWrite {c : Cell} (h : c.writesLeft ≠ some 0) (value : UInt32) :
    (c.afterWrite value).shown = c.written value ||| c.forced := by
  rw [shown, word_afterWrite h, forced_afterWrite]

end Cell

namespace Snapshot

@[simp] lemma value_add_self (s : Snapshot) (r : Register) (w : UInt32) :
    (s.add r w).value r = some w := by simp [add]

lemma value_add_of_ne (s : Snapshot) {q r : Register} (h : q ≠ r) (w : UInt32) :
    (s.add r w).value q = s.value q := by simp [add, h]

end Snapshot

/-- The registers other than the FIFO, in the order of the layout. -/
def Register.allButFifo : List Register := all.filter (· ≠ .fifo)

namespace Bank

variable {b : Bank} {q r : Register}

/-- A bank after an access, failed or not. -/
def afterAccess (b : Bank) : Access → Bank
  | .read r        => (b.record (.read r)).setCell r (b.cell r).afterRead
  | .write r value => (b.record (.write r value)).setCell r ((b.cell r).afterWrite value)

/-- A bank after accesses in a row. -/
def after (b : Bank) (accesses : List Access) : Bank := accesses.foldl afterAccess b

@[simp] lemma after_nil (b : Bank) : b.after [] = b := rfl

lemma after_cons (b : Bank) (a : Access) (accesses : List Access) :
    b.after (a :: accesses) = (b.after [a]).after accesses := rfl

lemma after_append (b : Bank) (first second : List Access) :
    b.after (first ++ second) = (b.after first).after second := List.foldl_append

@[simp] lemma accesses_after (b : Bank) (accesses : List Access) :
    (b.after accesses).accesses = b.accesses ++ accesses := by
  induction accesses generalizing b with
  | nil => simp
  | cons a accesses ih =>
    have hone : (b.after [a]).accesses = b.accesses ++ [a] := by cases a <;> rfl
    rw [after_cons, ih, hone, List.append_assoc, List.singleton_append]

/-! ### Single accesses -/

@[simp] lemma setCell_self (b : Bank) (r : Register) : b.setCell r (b.cell r) = b := by
  cases b
  simp only [setCell, mk.injEq, and_true]
  funext q
  split_ifs with h
  · rw [h]
  · rfl

/-- A read shows the register, unless its countdown has run out. -/
lemma run_read_eq (filter : Log.Filter) (b : Bank) (r : Register) :
    (read r).run filter b =
      ⟨if (b.cell r).readsLeft = some 0 then .error (.memory (failure r))
        else .ok (b.cell r).shown, b.after [.read r], []⟩ := by
  have hafter : b.after [.read r] = (b.record (.read r)).setCell r (b.cell r).afterRead := rfl
  rw [run_read, hafter]
  cases hleft : (b.cell r).readsLeft with
  | none =>
    rw [Cell.afterRead_of_constant (.inl hleft), ← cell_record b (.read r), setCell_self]
    rfl
  | some n =>
    cases n with
    | zero =>
      rw [Cell.afterRead_of_constant (.inr hleft), ← cell_record b (.read r), setCell_self]
      rfl
    | succ n =>
      rw [Cell.afterRead, hleft]
      rfl

/-- A write succeeds, unless its countdown has run out. -/
lemma run_write_eq (filter : Log.Filter) (b : Bank) (r : Register) (value : UInt32) :
    (write r value).run filter b =
      ⟨if (b.cell r).writesLeft = some 0 then .error (.memory (failure r)) else .ok (),
        b.after [.write r value], []⟩ := by
  have hafter : b.after [.write r value] =
      (b.record (.write r value)).setCell r ((b.cell r).afterWrite value) := rfl
  rw [run_write, hafter, Cell.afterWrite]
  cases hleft : (b.cell r).writesLeft with
  | none => simp [hleft]
  | some n =>
    cases n with
    | zero =>
      rw [if_pos rfl, if_pos rfl, ← cell_record b (.write r value), setCell_self]
    | succ n => simp

lemma run_read_of_fails (filter : Log.Filter) (h : (b.cell r).readsLeft = some 0) :
    (block.read r).run filter b = ⟨.error (.memory (failure r)), b.after [.read r], []⟩ :=
  (run_read_eq filter b r).trans (by rw [if_pos h])

lemma run_read_of_succeeds (filter : Log.Filter) (h : (b.cell r).readsLeft ≠ some 0) :
    (block.read r).run filter b = ⟨.ok (b.cell r).shown, b.after [.read r], []⟩ :=
  (run_read_eq filter b r).trans (by rw [if_neg h])

lemma run_write_of_fails (filter : Log.Filter) (value : UInt32)
    (h : (b.cell r).writesLeft = some 0) :
    (block.write r value).run filter b =
      ⟨.error (.memory (failure r)), b.after [.write r value], []⟩ :=
  (run_write_eq filter b r value).trans (by rw [if_pos h])

lemma run_write_of_succeeds (filter : Log.Filter) (value : UInt32)
    (h : (b.cell r).writesLeft ≠ some 0) :
    (block.write r value).run filter b = ⟨.ok (), b.after [.write r value], []⟩ :=
  (run_write_eq filter b r value).trans (by rw [if_neg h])

lemma cell_after_read_self (b : Bank) (r : Register) :
    (b.after [.read r]).cell r = (b.cell r).afterRead := setCell_cell_self _ _ _

lemma cell_after_read_of_ne (b : Bank) (h : q ≠ r) : (b.after [.read r]).cell q = b.cell q :=
  setCell_cell_of_ne _ h _

lemma cell_after_write_self (b : Bank) (r : Register) (value : UInt32) :
    (b.after [.write r value]).cell r = (b.cell r).afterWrite value := setCell_cell_self _ _ _

lemma cell_after_write_of_ne (b : Bank) (h : q ≠ r) (value : UInt32) :
    (b.after [.write r value]).cell q = b.cell q :=
  setCell_cell_of_ne _ h _

/-- Each read of a register counts down by one, and reads change nothing else. -/
lemma cell_after_reads (b : Bank) (rs : List Register) (q : Register) :
    (b.after (rs.map .read)).cell q =
      { b.cell q with readsLeft := (b.cell q).readsLeft.map (· - rs.count q) } := by
  induction rs generalizing b with
  | nil => simp
  | cons r rs ih =>
    rw [List.map_cons, after_cons, ih]
    by_cases h : q = r
    · subst h
      rw [cell_after_read_self, Cell.afterRead, List.count_cons_self]
      simp only [Option.map_map, Function.comp_def, Nat.sub_sub, Nat.add_comm 1]
    · rw [cell_after_read_of_ne b h, List.count_cons_of_ne (Ne.symm h)]

lemma word_after_read (b : Bank) (q r : Register) :
    ((b.after [.read q]).cell r).word = (b.cell r).word := by
  rw [show [Access.read q] = [q].map .read from rfl, cell_after_reads]

lemma word_after_write (b : Bank) (q r : Register) (value : UInt32) :
    ((b.after [.write q value]).cell r).word =
      if r = q ∧ (b.cell q).writesLeft ≠ some 0 then (b.cell q).written value
      else (b.cell r).word := by
  by_cases hr : r = q
  · subst hr
    rw [cell_after_write_self, Cell.afterWrite]
    split_ifs <;> simp_all
  · rw [cell_after_write_of_ne b hr, if_neg fun h => hr h.1]

/-! ### Snapshots -/

/-- The given registers up to the first whose read fails. -/
def upToFailure (b : Bank) : List Register → List Register
  | []      => []
  | r :: rs => if (b.cell r).readsLeft = some 0 then [r] else r :: b.upToFailure rs

/-- A snapshot that shows the given registers as they are in a bank. -/
def showing (b : Bank) (rs : List Register) (snapshot : Snapshot) : Snapshot :=
  ⟨fun r => if r ∈ rs then some (b.cell r).shown else snapshot.value r⟩

lemma showing_cons (b : Bank) (r : Register) (rs : List Register) (snapshot : Snapshot) :
    b.showing (r :: rs) snapshot = b.showing rs (snapshot.add r (b.cell r).shown) := by
  rw [showing, showing, Snapshot.mk.injEq]
  funext q
  by_cases hq : q = r
  · subst hq
    simp
  · simp [Snapshot.value_add_of_ne snapshot hq, hq]

/-- Registers are read up to the first failure, those left out whose reads have side effects. The
registers yet to be read are those of the bank that the reading started with. -/
lemma run_readAll (filter : Log.Filter) (rs : List Register) (hnodup : rs.Nodup)
    (snapshot : Snapshot) (b d : Bank)
    (hcells : ∀ r ∈ rs.filter (! ·.readHasSideEffects), d.cell r = b.cell r) :
    (Controller.readAll block rs snapshot).run filter d =
      ⟨match (rs.filter (! ·.readHasSideEffects)).find? fun r => (b.cell r).readsLeft = some 0 with
        | some r => .error (.memory (failure r))
        | none   => .ok (b.showing (rs.filter (! ·.readHasSideEffects)) snapshot),
        d.after ((b.upToFailure (rs.filter (! ·.readHasSideEffects))).map .read), []⟩ := by
  induction rs generalizing snapshot d with
  | nil => rfl
  | cons r rs ih =>
    obtain ⟨hr, hnodup⟩ := List.nodup_cons.mp hnodup
    unfold Controller.readAll
    cases hside : r.readHasSideEffects with
    | true =>
      rw [List.filter_cons_of_neg (by simp [hside])] at hcells ⊢
      rw [if_pos rfl]
      exact ih hnodup snapshot d hcells
    | false =>
      rw [List.filter_cons_of_pos (by simp [hside])] at hcells ⊢
      have hcell := hcells r List.mem_cons_self
      rw [if_neg (by simp), upToFailure]
      by_cases hfails : (b.cell r).readsLeft = some 0
      · have hread := run_read_of_fails filter (hcell ▸ hfails)
        rw [if_pos hfails, List.find?_cons_of_pos (by simpa using hfails),
          Action.run_bind_of_error filter d (congrArg Effect.result hread), hread]
        rfl
      · have hread := run_read_of_succeeds filter (hcell ▸ hfails)
        rw [if_neg hfails, List.find?_cons_of_neg (by simpa using hfails),
          Action.run_bind_of_ok filter d (congrArg Effect.result hread), hread, hcell]
        simp only
        -- the read leaves alone the registers that are read later
        have hothers : ∀ q ∈ rs.filter (! ·.readHasSideEffects),
            (d.after [.read r]).cell q = b.cell q := by
          intro q hq
          rw [cell_after_read_of_ne d, hcells q (List.mem_cons_of_mem r hq)]
          rintro rfl
          exact hr (List.mem_filter.mp hq).1
        rw [ih hnodup _ _ hothers, showing_cons, List.map_cons, ← after_cons]
        rfl

/-- The reads of a snapshot: all registers but the FIFO in the order of the layout, up to the first
whose read fails. -/
def snapshotReads (b : Bank) : List Access :=
  (b.upToFailure [.control, .status, .dataLength, .address, .divider, .delay, .clockStretch]).map
    .read

/-- A snapshot is decided by the registers other than the FIFO. -/
lemma run_snapshot (filter : Log.Filter) {b d : Bank}
    (hcells : ∀ r ∈ Register.allButFifo, d.cell r = b.cell r) :
    (Controller.snapshot block).run filter d =
      ⟨match Register.allButFifo.find? fun r => (b.cell r).readsLeft = some 0 with
        | some r => .error (.memory (failure r))
        | none   => .ok (b.showing Register.allButFifo .none),
        d.after b.snapshotReads, []⟩ := by
  have hregisters : Register.all.filter (! ·.readHasSideEffects) = Register.allButFifo := by decide
  have hrun := run_readAll filter Register.all (by decide) .none b d
  rw [hregisters] at hrun
  exact hrun hcells

/-- A snapshot that is told makes its reads, and nothing else. -/
lemma state_tellSnapshot (filter : Log.Filter) (stage : Log.Stage) (b : Bank) :
    ((Controller.tellSnapshot block stage).run filter b).state =
      if filter.enables .controller .debug then b.after b.snapshotReads else b := by
  rw [Controller.tellSnapshot, Action.run_whenEnabled]
  split_ifs
  · have hstate := congrArg Effect.state (run_snapshot filter fun r _ => Eq.refl (b.cell r))
    rw [Action.run_bind_of_ok filter b (x := ((Controller.snapshot block).run filter b).result) rfl]
    cases ((Controller.snapshot block).run filter b).result with
    | ok snapshot => exact (Controller.tellAll_state filter _ _).trans hstate
    | error e => exact hstate
  · rfl

/-! ### Setting a timeout -/

/-- A write that fails is the only access. -/
lemma run_setClockStretchTimeout_of_write_fails (filter : Log.Filter) (timeout : Timeout)
    (hwrite : (b.cell .clockStretch).writesLeft = some 0) :
    (Controller.setClockStretchTimeout block timeout).run filter b =
      ⟨.error (.memory (failure .clockStretch)),
        b.after [.write .clockStretch timeout.cycles.toUInt32], []⟩ :=
  Controller.run_setClockStretchTimeout_of_write_error (run_write_of_fails filter _ hwrite)

/-- A read that fails is the last access. -/
lemma run_setClockStretchTimeout_of_read_fails (filter : Log.Filter) (timeout : Timeout)
    (hwrite : (b.cell .clockStretch).writesLeft ≠ some 0)
    (hread : (b.cell .clockStretch).readsLeft = some 0) :
    (Controller.setClockStretchTimeout block timeout).run filter b =
      ⟨.error (.memory (failure .clockStretch)),
        b.after [.write .clockStretch timeout.cycles.toUInt32, .read .clockStretch], []⟩ := by
  refine Controller.run_setClockStretchTimeout_of_read_error (run_write_of_succeeds filter _ hwrite)
    (run_read_of_fails filter ?_)
  rwa [cell_after_write_self, Cell.readsLeft_afterWrite]

/-- What is read back is the word written, with the bits that every read shows as one. -/
lemma run_setClockStretchTimeout_of_succeeds (filter : Log.Filter) (timeout : Timeout)
    (hwrite : (b.cell .clockStretch).writesLeft ≠ some 0)
    (hread : (b.cell .clockStretch).readsLeft ≠ some 0) :
    let written := (b.cell .clockStretch).written timeout.cycles.toUInt32
    let tout := Controller.timeoutOf (written ||| (b.cell .clockStretch).forced)
    (Controller.setClockStretchTimeout block timeout).run filter b =
      ⟨.ok tout, b.after [.write .clockStretch timeout.cycles.toUInt32, .read .clockStretch],
        if filter.passes (Controller.readBack timeout tout) then
          [Controller.readBack timeout tout] else []⟩ := by
  intro written tout
  have hread' : ((b.after [.write .clockStretch timeout.cycles.toUInt32]).cell
      .clockStretch).readsLeft ≠ some 0 := by
    rwa [cell_after_write_self, Cell.readsLeft_afterWrite]
  have hset := Controller.run_setClockStretchTimeout block timeout
    (run_write_of_succeeds filter _ hwrite) (run_read_of_succeeds filter hread')
  rw [cell_after_write_self, Cell.shown_afterWrite hwrite] at hset
  exact hset

end Bank

end ClockStretch
