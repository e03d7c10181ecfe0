import ClockStretch.Proofs.Controller.Effect
import ClockStretch.Proofs.Window.Access

/-!
# Timeouts applied through windows

The word of the clock-stretch register is the last of the block, so a timeout can be applied through
a window that is as long as the block or longer, and through no shorter one. Through a shorter
window the first snapshot, if it is taken, still reads the registers up to the first that lies
outside, but what decides is the write, which fails and changes no file.
-/

namespace ClockStretch.Window

open Controller

variable {w : Window} {fs : FileSystem} {c : Contents}

/-- Telling a snapshot leaves the files alone. -/
lemma state_tellSnapshot (w : Window) (stage : Log.Stage) (filter : Log.Filter) (fs : FileSystem) :
    ((tellSnapshot w.block stage).run filter fs).state = fs := by
  have hkeeps : (tellSnapshot w.block stage).Keeps (· = fs) fun _ => True :=
    keeps_tellSnapshot (fun r _ => keeps_readWord (fun _ _ => trivial) w _)
      (fun _ _ _ => trivial) stage
  exact (hkeeps filter fs rfl).1

/-! ### Windows as long as the block -/

/-- A timeout that is applied stands in the word of the clock-stretch register, and is read back
from there. -/
lemma apply_block (hlength : Register.blockSize ≤ w.length.toNat)
    (hc : fs.contents? w.file = some c) (timeout : Timeout) (filter : Log.Filter) :
    ((apply w.block timeout).run filter fs).result = .ok timeout.cycles ∧
      ((apply w.block timeout).run filter fs).state =
        fs.setContents w.file (c.storeWord (w.base.toNat + Register.clockStretch.offset)
          timeout.cycles.toUInt32) := by
  have haccepts : w.accepts (UInt64.ofNat Register.clockStretch.offset) = true :=
    (accepts_register_iff w _).mpr (Nat.le_trans (Register.offset_add_four_le _) hlength)
  have hwrite := run_writeWord filter haccepts hc timeout.cycles.toUInt32
  have hread := run_readWord filter haccepts (fs.contents?_setContents_self
    (c := c.storeWord (w.base.toNat + Register.clockStretch.offset) timeout.cycles.toUInt32) hc)
  simp only [toNat_offset, Contents.loadWord_storeWord] at hwrite hread
  have hset := run_setClockStretchTimeout w.block timeout hwrite hread
  rw [← state_tellSnapshot w .before filter fs] at hset
  rw [run_apply_of_ok hset]
  simp only [state_tellSnapshot, timeoutOf_toUInt32, and_self]

/-! ### Shorter windows -/

/-- What is told of registers that are read through a window. -/
def readings (w : Window) (c : Contents) (rs : List Register) : List Log.Event :=
  rs.map fun r => .wordRead (UInt64.ofNat r.offset) (c.loadWord (w.base.toNat + r.offset))

/-- An event is told if the filter lets it through. -/
lemma told_eq_filter (filter : Log.Filter) (e : Log.Event) :
    (if filter.passes e then [e] else []) = [e].filter filter.passes := by
  cases h : filter.passes e <;> simp [h]

lemma filter_readings_cons (p : Log.Event → Bool) (r : Register) (rs : List Register) :
    (w.readings c (r :: rs)).filter p =
      (w.readings c [r]).filter p ++ (w.readings c rs).filter p := by
  rw [← List.filter_append]
  rfl

section Registers

variable {r : Register} (filter : Log.Filter)

lemma run_block_read (hr : r.offset + 4 ≤ w.length.toNat) (hc : fs.contents? w.file = some c) :
    (w.block.read r).run filter fs =
      ⟨.ok (c.loadWord (w.base.toNat + r.offset)), fs,
        (w.readings c [r]).filter filter.passes⟩ := by
  have hread := run_readWord filter ((accepts_register_iff w r).mpr hr) hc
  simp only [toNat_offset, told_eq_filter] at hread
  exact hread

lemma not_accepts_register (hr : w.length.toNat < r.offset + 4) :
    w.accepts (UInt64.ofNat r.offset) = false :=
  Bool.eq_false_iff.mpr fun h => Nat.not_le.mpr hr ((accepts_register_iff w r).mp h)

lemma run_block_read_outside (fs : FileSystem) (hr : w.length.toNat < r.offset + 4) :
    (w.block.read r).run filter fs =
      ⟨.error (.memory (.outOfWindow (UInt64.ofNat r.offset) w.length)), fs, []⟩ :=
  run_readWord_of_not_accepts filter (not_accepts_register hr)

lemma run_block_write_outside (fs : FileSystem) (hr : w.length.toNat < r.offset + 4)
    (value : UInt32) :
    (w.block.write r value).run filter fs =
      ⟨.error (.memory (.outOfWindow (UInt64.ofNat r.offset) w.length)), fs, []⟩ :=
  run_writeWord_of_not_accepts filter (not_accepts_register hr) value

end Registers

/-- Of the registers whose reads have no side effects, those in front of the first one that lies
outside of a window, and this one. -/
structure LeavesAt (w : Window) (rs inside : List Register) (r : Register) : Prop where
  split : ∃ rest, rs.filter (! ·.readHasSideEffects) = inside ++ r :: rest
  inside : ∀ q ∈ inside, q.offset + 4 ≤ w.length.toNat
  outside : w.length.toNat < r.offset + 4

/-- Registers are read up to the first one that lies outside of the window. -/
lemma exists_run_readAll (filter : Log.Filter) (hc : fs.contents? w.file = some c)
    {rs : List Register}
    (houtside : ∃ r ∈ rs, r.readHasSideEffects = false ∧ w.length.toNat < r.offset + 4)
    (snapshot : Snapshot) :
    ∃ inside r, LeavesAt w rs inside r ∧
      (readAll w.block rs snapshot).run filter fs =
        ⟨.error (.memory (.outOfWindow (UInt64.ofNat r.offset) w.length)), fs,
          (w.readings c inside).filter filter.passes⟩ := by
  induction rs generalizing snapshot with
  | nil => simp at houtside
  | cons q rs ih =>
    unfold readAll
    cases hside : q.readHasSideEffects with
    | true =>
      have hrest : ∃ r ∈ rs, r.readHasSideEffects = false ∧ w.length.toNat < r.offset + 4 := by
        simpa [hside] using houtside
      obtain ⟨inside, r, ⟨hsplit, hinside, hr⟩, hrun⟩ := ih hrest snapshot
      refine ⟨inside, r, ⟨?_, hinside, hr⟩, hrun⟩
      rwa [List.filter_cons_of_neg (by simp [hside])]
    | false =>
      have hfilter : (q :: rs).filter (! ·.readHasSideEffects) =
          q :: rs.filter (! ·.readHasSideEffects) :=
        List.filter_cons_of_pos (by simp [hside])
      rw [if_neg (by simp)]
      rcases Nat.lt_or_ge w.length.toNat (q.offset + 4) with hq | hq
      · have hread := run_block_read_outside filter fs hq
        refine ⟨[], q, ⟨⟨_, hfilter⟩, by simp, hq⟩, ?_⟩
        rw [Action.run_bind_of_error filter fs (congrArg Effect.result hread), hread]
        rfl
      · have hrest : ∃ r ∈ rs, r.readHasSideEffects = false ∧ w.length.toNat < r.offset + 4 := by
          obtain ⟨r, hr, hr'⟩ := houtside
          rcases List.mem_cons.mp hr with rfl | hr
          · exact absurd hq (Nat.not_le.mpr hr'.2)
          · exact ⟨r, hr, hr'⟩
        have hread := run_block_read filter hq hc
        obtain ⟨inside, r, ⟨⟨rest, hsplit⟩, hinside, hr⟩, hrun⟩ :=
          ih hrest (snapshot.add q (c.loadWord (w.base.toNat + q.offset)))
        refine ⟨q :: inside, r, ⟨⟨rest, ?_⟩, List.forall_mem_cons.mpr ⟨hq, hinside⟩, hr⟩, ?_⟩
        · rw [hfilter, hsplit, List.cons_append]
        · rw [Action.run_bind_of_ok filter fs (congrArg Effect.result hread), hread]
          simp only [hrun, filter_readings_cons _ q inside]

/-- A snapshot through a window that is too short fails, and is told as far as it was taken. -/
lemma exists_run_tellSnapshot (filter : Log.Filter) (hc : fs.contents? w.file = some c)
    (hlength : w.length.toNat < Register.blockSize) (stage : Log.Stage) :
    ∃ inside r, LeavesAt w Register.all inside r ∧
      let failed := Log.Event.snapshotFailed stage
        (.memory (.outOfWindow (UInt64.ofNat r.offset) w.length))
      (tellSnapshot w.block stage).run filter fs =
        ⟨.ok (), fs, if filter.enables .controller .debug then
          (w.readings c inside ++ [failed]).filter filter.passes else []⟩ := by
  have houtside : ∃ r ∈ Register.all, r.readHasSideEffects = false ∧
      w.length.toNat < r.offset + 4 := ⟨.clockStretch, by decide, by decide, hlength⟩
  obtain ⟨inside, r, hleaves, hrun⟩ := exists_run_readAll filter hc houtside .none
  refine ⟨inside, r, hleaves, ?_⟩
  rw [tellSnapshot, Action.run_whenEnabled]
  split_ifs
  · have hattempt := Action.run_attempt filter fs (snapshot w.block)
    simp only [snapshot, hrun] at hattempt
    rw [snapshot, Action.run_bind_of_ok filter fs (congrArg Effect.result hattempt), hattempt]
    simp only [Action.run_tell, told_eq_filter, List.filter_append]
  · rfl

/-- A timeout is not applied through a window that is too short: its write is refused after the
first snapshot, and no file changes. -/
lemma exists_run_apply (filter : Log.Filter) (hc : fs.contents? w.file = some c)
    (hlength : w.length.toNat < Register.blockSize) (timeout : Timeout) :
    ∃ inside r, LeavesAt w Register.all inside r ∧
      let failed := Log.Event.snapshotFailed .before
        (.memory (.outOfWindow (UInt64.ofNat r.offset) w.length))
      (apply w.block timeout).run filter fs =
        ⟨.error (.memory (.outOfWindow 28 w.length)), fs,
          if filter.enables .controller .debug then
            (w.readings c inside ++ [failed]).filter filter.passes else []⟩ := by
  obtain ⟨inside, r, hleaves, hbefore⟩ := exists_run_tellSnapshot filter hc hlength .before
  refine ⟨inside, r, hleaves, ?_⟩
  have hset := run_setClockStretchTimeout_of_write_error
    (run_block_write_outside (r := .clockStretch) filter fs hlength timeout.cycles.toUInt32)
  have happly := run_apply_of_error (s := fs) (by rw [hbefore]; exact hset)
  rw [happly, hbefore, List.append_nil]
  rfl

/-- A timeout can be applied through a window just if the window is as long as the block of
registers. Then the word of the clock-stretch register becomes the timeout, and nothing else of any
file changes. Through a shorter window the write to this register is refused and no file changes.
Nothing is read before the write, unless a snapshot is told; this reads the registers in front of
the first one that lies outside of the window, and fails there. -/
theorem apply_needs_whole_block {device : Path} {base length : UInt64} {opening : Log.Filter}
    {fs₀ : FileSystem} (hopen : ((openAt device base length).run opening fs₀).result = .ok w)
    (hc : fs.contents? w.file = some c) (timeout : Timeout) (filter : Log.Filter) :
    let effect := (apply w.block timeout).run filter fs
    ((∃ tout, effect.result = .ok tout) ↔ 32 ≤ length.toNat) ∧
    (32 ≤ length.toNat → effect.result = .ok timeout.cycles ∧
      FileSystem.WordReplaced fs effect.state w.file (base.toNat + 0x1c)
        timeout.cycles.toUInt32) ∧
    (length.toNat < 32 → ∃ inside r, LeavesAt w Register.all inside r ∧
      let failed := Log.Event.snapshotFailed .before
        (.memory (.outOfWindow (UInt64.ofNat r.offset) length))
      effect = ⟨.error (.memory (.outOfWindow 28 length)), fs,
        if filter.enables .controller .debug then
          (w.readings c inside ++ [failed]).filter filter.passes else []⟩) := by
  intro effect
  obtain ⟨l, -, rfl, -⟩ := of_openAt_eq_ok hopen
  have hlong (h : 32 ≤ length.toNat) := apply_block (w := ⟨l, base, length⟩) h hc timeout filter
  have hshort (h : length.toNat < 32) :=
    exists_run_apply (w := ⟨l, base, length⟩) filter hc h timeout
  refine ⟨⟨?_, fun h => ⟨_, (hlong h).1⟩⟩, fun h => ⟨(hlong h).1, ?_⟩, hshort⟩
  · rintro ⟨tout, htout⟩
    refine Nat.le_of_not_lt fun hlt => ?_
    obtain ⟨inside, r, -, heffect⟩ := hshort hlt
    cases (congrArg Effect.result heffect).symm.trans htout
  · rw [(hlong h).2]
    exact FileSystem.wordReplaced_setContents _ _ hc

/-- A window that lacks the last byte of the block, and one that goes on behind it. -/
theorem apply_needs_whole_block_to_last_byte :
    let fs : FileSystem := ⟨[([[0x64]], .regular (.zeros 4096))], []⟩
    let device : Path := ⟨[0x2f, 0x64]⟩
    let short : Window := ⟨[[0x64]], 0x804, 31⟩
    let long : Window := ⟨[[0x64]], 0x804, 33⟩
    let timeout : Timeout := ⟨35, by decide⟩
    let effect (w : Window) := (apply w.block timeout).run (.upTo (some .trace)) fs
    ((openAt device 0x804 31).run (.upTo none) fs).result = .ok short ∧
      ((openAt device 0x804 33).run (.upTo none) fs).result = .ok long ∧
      (effect short).result = .error (.memory (.outOfWindow 28 31)) ∧ (effect short).state = fs ∧
      (effect long).result = .ok 35 ∧
      FileSystem.WordReplaced fs (effect long).state long.file 0x820 35 := by
  intro fs device short long timeout effect
  have hshort : ((openAt device 0x804 31).run (.upTo none) fs).result = .ok short :=
    result_openAt_of_mapped (.upTo none) (by decide) rfl (by decide)
  have hlong : ((openAt device 0x804 33).run (.upTo none) fs).result = .ok long :=
    result_openAt_of_mapped (.upTo none) (by decide) rfl (by decide)
  have hc : fs.contents? [[0x64]] = some (.zeros 4096) := rfl
  obtain ⟨-, -, hrefused⟩ := apply_needs_whole_block hshort hc timeout (.upTo (some .trace))
  obtain ⟨-, happlied, -⟩ := apply_needs_whole_block hlong hc timeout (.upTo (some .trace))
  obtain ⟨inside, r, -, heffect⟩ := hrefused (by decide)
  obtain ⟨hresult, hreplaced⟩ := happlied (by decide)
  exact ⟨hshort, hlong, congrArg Effect.result heffect, congrArg Effect.state heffect, hresult,
    hreplaced⟩

end ClockStretch.Window
