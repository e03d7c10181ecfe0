import ClockStretch.Proofs.Action.Process
import ClockStretch.Proofs.Bank.Access
import ClockStretch.Proofs.Controller.Effect
import ClockStretch.Proofs.Controller.Operations

/-!
# What commands do to a bank

Commands to a controller in a row, on a bank of registers whose accesses may fail at any time. The
FIFO is never touched, and all that is ever written is a timeout, to the clock-stretch register.
This register holds the last timeout that a write brought through, but for the bits that a write
leaves alone; all other registers hold what they held in the beginning.
-/

namespace ClockStretch

/-! ### Commands -/

namespace Controller

/-- What a controller is asked for, other than a single access. -/
inductive Command where
  | timeout
  | setTimeout (timeout : Timeout)
  | snapshot
  | apply (timeout : Timeout)

namespace Command

variable {σ : Type} (block : RegisterBlock σ) (filter : Log.Filter)

/-- A command as an operation of the controller. -/
def operation : Command → Operation
  | .timeout      => .timeout
  | .setTimeout t => .setTimeout t
  | .snapshot     => .snapshot
  | .apply t      => .apply t

/-- The timeout, if its write to the clock-stretch register succeeds. -/
def brought? (timeout : Timeout) (s : σ) : Option Timeout :=
  match ((block.write .clockStretch timeout.cycles.toUInt32).run filter s).result with
  | .ok ()   => some timeout
  | .error _ => none

/-- The timeout that a command writes, if the write succeeds. Before it is applied, a snapshot of
the registers may be taken. -/
def written? : Command → σ → Option Timeout
  | .setTimeout t, s => brought? block filter t s
  | .apply t,      s =>
    brought? block filter t ((tellSnapshot block .before).run filter s).state
  | _,             _ => none

end Command

end Controller

/-! ### Words -/

namespace Cell

/-- A write keeps the bits that writes leave alone. -/
lemma written_and_readOnly (c : Cell) (value : UInt32) :
    c.written value &&& c.readOnly = c.word &&& c.readOnly := by
  apply UInt32.toBitVec_inj.1
  ext i hi
  simp only [written, UInt32.toBitVec_and, UInt32.toBitVec_or, UInt32.toBitVec_not,
    BitVec.getElem_and, BitVec.getElem_or, BitVec.getElem_not]
  grind

/-- The word of a register after a timeout was written to it, if one was. -/
def wordAfter (c : Cell) : Option Timeout → UInt32
  | none   => c.word
  | some t => c.written t.cycles.toUInt32

/-- Of values that are written one after the other the last one decides. -/
lemma written_of_word_eq_wordAfter {c d : Cell} {last? : Option Timeout}
    (hmask : d.readOnly = c.readOnly) (hword : d.word = c.wordAfter last?) (value : UInt32) :
    d.written value = c.written value := by
  have hkept : c.wordAfter last? &&& c.readOnly = c.word &&& c.readOnly := by
    cases last? with
    | none => rfl
    | some t => exact c.written_and_readOnly _
  rw [written, hmask, hword, hkept]
  rfl

end Cell

/-! ### Safe accesses -/

/-- An access that is safe: a read of a register other than the FIFO, or a write of a timeout to the
clock-stretch register, where the reserved bits are zero. -/
def Access.IsSafe : Access → Prop
  | .read r        => r ≠ .fifo
  | .write r value => r = .clockStretch ∧ 1 ≤ value.toNat ∧ value.toNat ≤ 0xffff

lemma Access.isSafe_write (t : Timeout) :
    (Access.write .clockStretch t.cycles.toUInt32).IsSafe := by
  have hpos := UInt16.lt_iff_toNat_lt.mp t.cycles_pos
  have hlt := t.cycles.toNat_lt
  refine ⟨rfl, ?_, ?_⟩ <;> simp only [UInt16.toNat_toUInt32, UInt16.toNat_zero] at hpos ⊢ <;> omega

namespace Bank

open ClockStretch.Action Controller

/-- A bank that safe accesses have made of an earlier one, with the timeouts that were written
successfully. -/
structure MadeFrom (b₀ : Bank) (written : List Timeout) (b : Bank) : Prop where
  accesses : ∃ made, b.accesses = b₀.accesses ++ made ∧ ∀ a ∈ made, a.IsSafe
  masks : ∀ r, (b.cell r).readOnly = (b₀.cell r).readOnly
  others : ∀ r, r ≠ .clockStretch → (b.cell r).word = (b₀.cell r).word
  register : (b.cell .clockStretch).word = (b₀.cell .clockStretch).wordAfter written.getLast?

variable {b₀ b : Bank} {ts : List Timeout}

lemma MadeFrom.start (b : Bank) : MadeFrom b [] b where
  accesses := ⟨[], (List.append_nil _).symm, by simp⟩
  masks _ := rfl
  others _ _ := rfl
  register := rfl

lemma MadeFrom.record (h : MadeFrom b₀ ts b) {a : Access} (ha : a.IsSafe) :
    MadeFrom b₀ ts (b.record a) where
  accesses := by
    obtain ⟨made, haccesses, hmade⟩ := h.accesses
    refine ⟨made ++ [a], ?_, fun d hd => ?_⟩
    · rw [Bank.record, haccesses, List.append_assoc]
    · rcases List.mem_append.mp hd with hd | hd
      · exact hmade d hd
      · rwa [List.mem_singleton.mp hd]
  masks := h.masks
  others := h.others
  register := h.register

/-- A countdown goes on. -/
lemma MadeFrom.countDown (h : MadeFrom b₀ ts b) {r : Register} {c : Cell}
    (hmask : c.readOnly = (b.cell r).readOnly) (hword : c.word = (b.cell r).word) :
    MadeFrom b₀ ts (b.setCell r c) := by
  have hcell : ∀ q, ((b.setCell r c).cell q).readOnly = (b.cell q).readOnly ∧
      ((b.setCell r c).cell q).word = (b.cell q).word := by
    intro q
    by_cases hqr : q = r
    · subst hqr
      simp only [setCell_cell_self, hmask, hword, and_self]
    · simp only [setCell_cell_of_ne b hqr, and_self]
  exact {
    accesses := h.accesses
    masks := fun q => (hcell q).1.trans (h.masks q)
    others := fun q hq => (hcell q).2.trans (h.others q hq)
    register := (hcell _).2.trans h.register }

/-- A timeout is written. -/
lemma MadeFrom.store (h : MadeFrom b₀ ts b) {t : Timeout} {c : Cell}
    (hmask : c.readOnly = (b.cell .clockStretch).readOnly)
    (hword : c.word = (b.cell .clockStretch).written t.cycles.toUInt32) :
    MadeFrom b₀ (ts ++ [t]) (b.setCell .clockStretch c) where
  accesses := h.accesses
  masks r := by
    by_cases hr : r = .clockStretch
    · subst hr
      rw [setCell_cell_self, hmask, h.masks]
    · rw [setCell_cell_of_ne b hr, h.masks]
  others r hr := by rw [setCell_cell_of_ne b hr, h.others r hr]
  register := by
    rw [setCell_cell_self, hword, Cell.written_of_word_eq_wordAfter (h.masks _) h.register,
      List.getLast?_concat]
    rfl

lemma keeps_madeFrom_read {r : Register} (hr : r ≠ .fifo) :
    (block.read r).Keeps (MadeFrom b₀ ts) fun _ => True := by
  intro filter b h
  refine ⟨?_, fun _ _ => trivial⟩
  have hrecord : MadeFrom b₀ ts (b.record (.read r)) := h.record hr
  rw [show block.read r = read r from rfl, run_read]
  split
  · exact hrecord
  · exact hrecord.countDown rfl rfl
  · exact hrecord

lemma MadeFrom.write (h : MadeFrom b₀ ts b) (filter : Log.Filter) (t : Timeout) :
    MadeFrom b₀ (ts ++ (Command.brought? block filter t b).toList)
      ((block.write .clockStretch t.cycles.toUInt32).run filter b).state := by
  have hrecord := h.record (Access.isSafe_write t)
  rw [Command.brought?,
    show block.write .clockStretch t.cycles.toUInt32 = Bank.write _ _ from rfl, run_write]
  cases hleft : (b.cell .clockStretch).writesLeft with
  | none => exact hrecord.store rfl rfl
  | some n =>
    cases n with
    | zero => simpa using hrecord
    | succ n => exact hrecord.store rfl rfl

/-! ### Commands on safe banks -/

lemma keeps_madeFrom_readAll (rs : List Register) (snapshot : Snapshot) :
    (readAll block rs snapshot).Keeps (MadeFrom b₀ ts) fun _ => True :=
  keeps_readAll (fun _ hr => keeps_madeFrom_read (by simpa [Register.readHasSideEffects] using hr))
    rs snapshot

lemma keeps_madeFrom_tellSnapshot (stage : Log.Stage) :
    (tellSnapshot block stage).Keeps (MadeFrom b₀ ts) fun _ => True :=
  keeps_tellSnapshot
    (fun _ hr => keeps_madeFrom_read (by simpa [Register.readHasSideEffects] using hr))
    (fun _ _ _ => trivial) stage

lemma keeps_madeFrom_clockStretchTimeout :
    (clockStretchTimeout block).Keeps (MadeFrom b₀ ts) fun _ => True :=
  (keeps_madeFrom_read (by decide)).bind fun _ => Keeps.pure _

/-- A timeout that is set counts as written as soon as its write succeeds, whether or not it can be
read back. -/
lemma MadeFrom.setClockStretchTimeout (h : MadeFrom b₀ ts b) (filter : Log.Filter) (t : Timeout) :
    MadeFrom b₀ (ts ++ (Command.brought? block filter t b).toList)
      ((setClockStretchTimeout block t).run filter b).state := by
  have hwrite := h.write filter t
  rw [setClockStretchTimeout_eq]
  cases hresult : ((block.write .clockStretch t.cycles.toUInt32).run filter b).result with
  | error e =>
    rw [run_bind_of_error filter b hresult]
    exact hwrite
  | ok _ =>
    rw [run_bind_of_ok filter b hresult]
    exact ((keeps_madeFrom_clockStretchTimeout.bind fun _ =>
      (Keeps.tell trivial).bind fun _ => Keeps.pure _) filter _ hwrite).1

lemma MadeFrom.apply (h : MadeFrom b₀ ts b) (filter : Log.Filter) (t : Timeout) :
    MadeFrom b₀ (ts ++ (Command.written? block filter (.apply t) b).toList)
      ((Controller.apply block t).run filter b).state := by
  have hbefore := (keeps_madeFrom_tellSnapshot .before filter b h).1
  have hset := hbefore.setClockStretchTimeout filter t
  unfold Controller.apply
  rw [run_bind_of_ok filter b (tellSnapshot_result block .before filter b)]
  cases hresult : ((Controller.setClockStretchTimeout block t).run filter
      ((tellSnapshot block .before).run filter b).state).result with
  | error e =>
    rw [run_bind_of_error filter _ hresult]
    exact hset
  | ok _ =>
    rw [run_bind_of_ok filter _ hresult]
    exact (((keeps_madeFrom_tellSnapshot .after).bind fun _ => Keeps.pure _) filter _ hset).1

lemma MadeFrom.perform (h : MadeFrom b₀ ts b) (filter : Log.Filter) (command : Command) :
    MadeFrom b₀ (ts ++ (command.written? block filter b).toList)
      ((perform block command.operation).run filter b).state := by
  cases command with
  | timeout =>
    rw [show Command.written? block filter .timeout b = none from rfl, Option.toList_none,
      List.append_nil]
    exact ((keeps_madeFrom_clockStretchTimeout.bind fun _ => Keeps.pure _) filter b h).1
  | setTimeout t =>
    rw [Command.operation, Controller.perform, state_bind_pure]
    exact h.setClockStretchTimeout filter t
  | snapshot =>
    rw [show Command.written? block filter .snapshot b = none from rfl, Option.toList_none,
      List.append_nil]
    exact (((keeps_madeFrom_readAll Register.all .none).bind fun _ => Keeps.pure _) filter b h).1
  | apply t =>
    rw [Command.operation, Controller.perform, state_bind_pure]
    exact h.apply filter t

/-! ### Commands in a row -/

/-- Commands to the controller of a bank, each under a filter of its own. Marks are the timeouts
that were written successfully. -/
def commands : Process Bank (Log.Filter × Command) Timeout where
  next step b := ((Controller.perform block step.2.operation).run step.1 b).state
  mark? step b := step.2.written? block step.1 b

lemma madeFrom_after (steps : List (Log.Filter × Command)) (b : Bank) :
    MadeFrom b (commands.marks steps b) (commands.after steps b) :=
  commands.invariant (P := MadeFrom b) (fun _ step _ h => h.perform step.1 step.2) steps (.start b)

/-- Whatever commands a controller is given, at any level of events and with any accesses failing:
the FIFO is neither read nor written, only the clock-stretch register is ever written, each time
with a value from 1 to 65535, the words of all other registers stay, and the word of the
clock-stretch register is the last timeout that was written successfully, but for the bits of the
first word that writes leave alone. -/
theorem commands_are_safe (steps : List (Log.Filter × Command)) (b : Bank) :
    let b' := commands.after steps b
    let c := b.cell .clockStretch
    (∃ made, b'.accesses = b.accesses ++ made ∧
      (∀ r, .read r ∈ made → r ≠ .fifo) ∧
      ∀ r value, .write r value ∈ made →
        r = .clockStretch ∧ 1 ≤ value.toNat ∧ value.toNat ≤ 65535) ∧
    (∀ r, r ≠ .clockStretch → (b'.cell r).word = (b.cell r).word) ∧
    (b'.cell .clockStretch).word =
      match (commands.marks steps b).getLast? with
      | none   => c.word
      | some t => (c.word &&& c.readOnly) ||| (t.cycles.toUInt32 &&& ~~~c.readOnly) := by
  have h := madeFrom_after steps b
  obtain ⟨made, haccesses, hsafe⟩ := h.accesses
  refine ⟨⟨made, haccesses, fun r hr => ?_, fun r value hr => ?_⟩, h.others, ?_⟩
  · exact hsafe _ hr
  · exact hsafe _ hr
  · rw [h.register]
    cases (commands.marks steps b).getLast? <;> rfl

end Bank

end ClockStretch
