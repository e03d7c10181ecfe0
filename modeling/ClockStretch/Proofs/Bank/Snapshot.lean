import ClockStretch.Proofs.Bank.Replay
import ClockStretch.Proofs.Register.Layout

/-!
# Snapshots of banks

A snapshot reads the registers other than the FIFO in the order of the layout, each once, and stops
at the first one whose read fails. It succeeds just if all of these reads do, and then shows what
they gave. As no register is read twice, each read comes out as it would be at the start. The FIFO
takes no part: whatever is in its place, a snapshot comes out the same.
-/

namespace ClockStretch

/-- The registers are listed in the order of the layout, each once. -/
lemma Register.pairwise_offset_all : Register.all.Pairwise (·.offset < ·.offset) := by decide

@[simp] lemma Register.mem_allButFifo {r : Register} : r ∈ Register.allButFifo ↔ r ≠ .fifo := by
  simp [allButFifo, mem_all]

namespace Bank

open Controller

variable {b : Bank} {rs before rest : List Register} {q r : Register}

/-! ### Reads up to the first failure -/

lemma upToFailure_of_forall (h : ∀ r ∈ rs, (b.cell r).readsLeft ≠ some 0) :
    b.upToFailure rs = rs := by
  induction rs with
  | nil => rfl
  | cons r rs ih =>
    obtain ⟨hr, hrs⟩ := List.forall_mem_cons.mp h
    rw [upToFailure, if_neg hr, ih hrs]

lemma upToFailure_append_cons (h : ∀ q ∈ before, (b.cell q).readsLeft ≠ some 0)
    (hr : (b.cell r).readsLeft = some 0) :
    b.upToFailure (before ++ r :: rest) = before ++ [r] := by
  induction before with
  | nil => rw [List.nil_append, upToFailure, if_pos hr, List.nil_append]
  | cons q before ih =>
    obtain ⟨hq, hbefore⟩ := List.forall_mem_cons.mp h
    rw [List.cons_append, upToFailure, if_neg hq, ih hbefore, List.cons_append]

/-- Either no read of the given registers fails, or there is a first one that does. -/
lemma none_fails_or_first_fails (b : Bank) (rs : List Register) :
    (∀ r ∈ rs, (b.cell r).readsLeft ≠ some 0) ∨
      ∃ before r rest, rs = before ++ r :: rest ∧
        (∀ q ∈ before, (b.cell q).readsLeft ≠ some 0) ∧ (b.cell r).readsLeft = some 0 := by
  cases hfirst : rs.find? fun r => (b.cell r).readsLeft = some 0 with
  | none => exact .inl (by simpa using List.find?_eq_none.mp hfirst)
  | some r =>
    obtain ⟨hr, before, rest, rfl, hbefore⟩ := List.find?_eq_some_iff_append.mp hfirst
    exact .inr ⟨before, r, rest, rfl, by simpa using hbefore, by simpa using hr⟩

lemma run_snapshot_of_reads_succeed (filter : Log.Filter)
    (h : ∀ r ∈ Register.allButFifo, (b.cell r).readsLeft ≠ some 0) :
    (snapshot block).run filter b =
      ⟨.ok (b.showing Register.allButFifo .none), b.after (Register.allButFifo.map .read), []⟩ := by
  have hfind : Register.allButFifo.find? (fun r => (b.cell r).readsLeft = some 0) = none :=
    List.find?_eq_none.mpr (by simpa using h)
  have hreads : b.snapshotReads = Register.allButFifo.map .read :=
    congrArg (List.map Access.read) (upToFailure_of_forall h)
  rw [run_snapshot filter fun r _ => Eq.refl (b.cell r), hfind, hreads]

lemma run_snapshot_of_read_fails (filter : Log.Filter)
    (hregisters : Register.allButFifo = before ++ r :: rest)
    (hbefore : ∀ q ∈ before, (b.cell q).readsLeft ≠ some 0)
    (hr : (b.cell r).readsLeft = some 0) :
    (snapshot block).run filter b =
      ⟨.error (.memory (failure r)), b.after ((before ++ [r]).map .read), []⟩ := by
  have hfind : Register.allButFifo.find? (fun r => (b.cell r).readsLeft = some 0) = some r :=
    List.find?_eq_some_iff_append.mpr
      ⟨by simpa using hr, before, rest, hregisters, by simpa using hbefore⟩
  have hreads : b.snapshotReads = (before ++ [r]).map .read := by
    refine congrArg (List.map Access.read) ((?_ : b.upToFailure Register.allButFifo = _))
    rw [hregisters, upToFailure_append_cons hbefore hr]
  rw [run_snapshot filter fun r _ => Eq.refl (b.cell r), hfind, hreads]

/-! ### A register that is not read -/

lemma setCell_comm (b : Bank) (h : q ≠ r) (c d : Cell) :
    (b.setCell q c).setCell r d = (b.setCell r d).setCell q c := by
  simp only [setCell, mk.injEq, and_true]
  funext p
  split_ifs with hr hq
  · exact absurd (hq.symm.trans hr) h
  all_goals rfl

/-- Reads of other registers neither see nor change a register. -/
lemma after_reads_setCell (b : Bank) (h : q ∉ rs) (c : Cell) :
    (b.setCell q c).after (rs.map .read) = (b.after (rs.map .read)).setCell q c := by
  induction rs generalizing b with
  | nil => rfl
  | cons r rs ih =>
    obtain ⟨hqr, hrs⟩ := not_or.mp ((not_congr List.mem_cons).mp h)
    have hread : (b.setCell q c).after [.read r] = (b.after [.read r]).setCell q c := by
      show ((b.setCell q c).record (.read r)).setCell r ((b.setCell q c).cell r).afterRead = _
      rw [setCell_cell_of_ne b (Ne.symm hqr)]
      exact setCell_comm (b.record (.read r)) hqr c _
    rw [List.map_cons, after_cons, hread, ih _ hrs, ← after_cons]

lemma upToFailure_subset (b : Bank) (rs : List Register) : b.upToFailure rs ⊆ rs := by
  intro q hq
  obtain h | ⟨before, r, rest, rfl, hbefore, hr⟩ := b.none_fails_or_first_fails rs
  · rwa [upToFailure_of_forall h] at hq
  · rw [upToFailure_append_cons hbefore hr] at hq
    grind

/-- Whatever is in the place of the FIFO, a snapshot comes out the same and leaves it there. -/
lemma run_snapshot_setCell_fifo (filter : Log.Filter) (b : Bank) (c : Cell) :
    (snapshot block).run filter (b.setCell .fifo c) =
      { (snapshot block).run filter b with
        state := ((snapshot block).run filter b).state.setCell .fifo c } := by
  have hcells : ∀ r ∈ Register.allButFifo, (b.setCell .fifo c).cell r = b.cell r := fun r hr =>
    setCell_cell_of_ne b (Register.mem_allButFifo.mp hr) c
  have hfifo : .fifo ∉ b.upToFailure Register.allButFifo := fun h =>
    Register.mem_allButFifo.mp (b.upToFailure_subset _ h) rfl
  rw [run_snapshot filter hcells, run_snapshot filter fun r _ => Eq.refl (b.cell r)]
  exact congrArg (Effect.mk _ · []) (after_reads_setCell b hfifo c)

/-! ### Snapshots by what reads give -/

lemma result_read_eq_ok_iff (filter : Log.Filter) (b : Bank) (r : Register) (w : UInt32) :
    ((block.read r).run filter b).result = .ok w ↔
      (b.cell r).readsLeft ≠ some 0 ∧ (b.cell r).shown = w := by
  rw [show block.read r = read r from rfl, run_read_eq]
  split_ifs with h <;> simp [h]

lemma exists_result_read_eq_ok_iff (filter : Log.Filter) (b : Bank) (r : Register) :
    (∃ w, ((block.read r).run filter b).result = .ok w) ↔ (b.cell r).readsLeft ≠ some 0 := by
  simp only [result_read_eq_ok_iff, exists_and_left, exists_eq', and_true]

/-- A snapshot succeeds just if no read of a register other than the FIFO fails. -/
lemma exists_result_snapshot_eq_ok_iff (filter : Log.Filter) (b : Bank) :
    (∃ s, ((snapshot block).run filter b).result = .ok s) ↔
      ∀ r, r ≠ .fifo → (b.cell r).readsLeft ≠ some 0 := by
  constructor
  · rintro ⟨s, hs⟩ r hr hfails
    obtain h | ⟨before, q, rest, hregisters, hbefore, hq⟩ :=
      b.none_fails_or_first_fails Register.allButFifo
    · exact h r (Register.mem_allButFifo.mpr hr) hfails
    · rw [run_snapshot_of_read_fails filter hregisters hbefore hq] at hs
      cases hs
  · intro h
    exact ⟨_, congrArg Effect.result
      (run_snapshot_of_reads_succeed filter fun r hr => h r (Register.mem_allButFifo.mp hr))⟩

lemma value_showing_of_read (filter : Log.Filter) {w : UInt32} (hr : r ≠ .fifo)
    (hread : ((block.read r).run filter b).result = .ok w) :
    (b.showing Register.allButFifo .none).value r = some w := by
  have hshown : (b.cell r).shown = w := ((result_read_eq_ok_iff filter b r w).mp hread).2
  exact (if_pos (Register.mem_allButFifo.mpr hr)).trans (congrArg some hshown)

lemma entries_showing (filter : Log.Filter)
    (h : ∀ r, r ≠ .fifo → ∃ w, ((block.read r).run filter b).result = .ok w) :
    (b.showing Register.allButFifo .none).entries = Register.all.map fun r =>
      (r, if r = .fifo then none else ((block.read r).run filter b).result.toOption) := by
  refine List.map_congr_left fun r _ => ?_
  split_ifs with hr
  · rw [hr]
    rfl
  · obtain ⟨w, hw⟩ := h r hr
    rw [hw, value_showing_of_read filter hr hw]
    rfl

/-- A snapshot makes no access but a read of each register other than the FIFO, in the order of the
layout. It succeeds just if each of these reads does, and then the snapshot shows what they give,
and nothing for the FIFO. Otherwise the first read that fails is the last access, and its error the
error of the snapshot. What is in the place of the FIFO, countdowns included, does not matter. -/
theorem snapshot_reads_all_but_fifo (filter : Log.Filter) (b : Bank) :
    let others := Register.all.filter (· ≠ .fifo)
    let read := fun r => ((block.read r).run filter b).result
    let effect := (snapshot block).run filter b
    others.Pairwise (·.offset < ·.offset) ∧
    (∀ r, read r = if (b.cell r).readsLeft = some 0 then .error (.memory (failure r))
      else .ok ((b.cell r).word ||| (b.cell r).forced)) ∧
    ((∃ s, effect.result = .ok s) ↔ ∀ r, r ≠ .fifo → ∃ w, read r = .ok w) ∧
    (match effect.result with
      | .ok s    =>
        effect.state = b.after (others.map .read) ∧
        effect.state.accesses = b.accesses ++ others.map .read ∧
        s.value .fifo = none ∧ (∀ r, r ≠ .fifo → ∃ w, read r = .ok w ∧ s.value r = some w) ∧
        s.entries = Register.all.map fun r => (r, if r = .fifo then none else (read r).toOption)
      | .error e =>
        ∃ before r rest, others = before ++ r :: rest ∧ (∀ q ∈ before, ∃ w, read q = .ok w) ∧
          read r = .error e ∧ effect.state = b.after ((before ++ [r]).map .read) ∧
          effect.state.accesses = b.accesses ++ (before ++ [r]).map .read) ∧
    ∀ c, (snapshot block).run filter (b.setCell .fifo c) =
      { effect with state := effect.state.setCell .fifo c } := by
  intro others read effect
  have hok : ∀ r, (∃ w, read r = .ok w) ↔ (b.cell r).readsLeft ≠ some 0 :=
    exists_result_read_eq_ok_iff filter b
  refine ⟨Register.pairwise_offset_all.filter _, fun r => congrArg Effect.result
    (run_read_eq filter b r), ?_, ?_, run_snapshot_setCell_fifo filter b⟩
  · simp only [hok]
    exact exists_result_snapshot_eq_ok_iff filter b
  obtain h | ⟨before, r, rest, hothers, hbefore, hr⟩ := b.none_fails_or_first_fails others
  · have hreads : ∀ r, r ≠ .fifo → ∃ w, read r = .ok w := fun r hr =>
      (hok r).mpr (h r (Register.mem_allButFifo.mpr hr))
    have hvalue : ∀ r, r ≠ .fifo → ∃ w, read r = .ok w ∧
        (b.showing Register.allButFifo .none).value r = some w := fun r hr =>
      (hreads r hr).imp fun w hw => ⟨hw, value_showing_of_read filter hr hw⟩
    rw [show effect = _ from run_snapshot_of_reads_succeed filter h]
    exact ⟨rfl, accesses_after _ _, rfl, hvalue, entries_showing filter hreads⟩
  · have hread : read r = .error (.memory (failure r)) :=
      congrArg Effect.result (run_read_of_fails filter hr)
    rw [show effect = _ from run_snapshot_of_read_fails filter hothers hbefore hr]
    exact ⟨before, r, rest, hothers, fun q hq => (hok q).mpr (hbefore q hq), hread, rfl,
      accesses_after _ _⟩

end Bank

end ClockStretch
