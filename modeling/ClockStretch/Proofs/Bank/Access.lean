import ClockStretch.Bank
import ClockStretch.Proofs.Action.Run

/-!
# Accesses to banks

What a read and a write do to a bank, by the countdown of the register. A bank that starts with
given words, without bits of its own and without countdowns, reads and writes these words.
-/

namespace ClockStretch

namespace Cell

@[simp] lemma shown_plain (word : UInt32) : (plain word).shown = word := by simp [plain, shown]

@[simp] lemma written_plain (word value : UInt32) : (plain word).written value = value := by
  simp [plain, written]

end Cell

namespace Bank

/-- The bank of registers with the given words, which can be written as a whole and never fail. -/
def ofWords (word : Register → UInt32) : Bank := ⟨fun r => .plain (word r), []⟩

variable (filter : Log.Filter) (b : Bank) (r : Register)

/-! ### Registers replaced -/

@[simp] lemma setCell_cell_self (c : Cell) : (b.setCell r c).cell r = c := by simp [setCell]

lemma setCell_cell_of_ne {q r : Register} (h : q ≠ r) (c : Cell) :
    (b.setCell r c).cell q = b.cell q := by simp [setCell, h]

@[simp] lemma cell_record (a : Access) : (b.record a).cell = b.cell := rfl

/-! ### Reads and writes -/

/-- A read is kept, counts down, and shows the register. -/
theorem run_read :
    (read r).run filter b =
      match (b.cell r).readsLeft with
      | some 0       => ⟨.error (.memory (failure r)), b.record (.read r), []⟩
      | some (n + 1) =>
        ⟨.ok (b.cell r).shown,
          (b.record (.read r)).setCell r { b.cell r with readsLeft := some n }, []⟩
      | none         => ⟨.ok (b.cell r).shown, b.record (.read r), []⟩ := by
  unfold read
  simp only [Action.run_get_bind, Action.run_set_bind]
  cases (b.cell r).readsLeft with
  | none => rfl
  | some n => cases n <;> rfl

/-- A write is kept, counts down, and writes the register. -/
theorem run_write (value : UInt32) :
    (write r value).run filter b =
      match (b.cell r).writesLeft with
      | some 0       => ⟨.error (.memory (failure r)), b.record (.write r value), []⟩
      | some (n + 1) =>
        ⟨.ok (), (b.record (.write r value)).setCell r
          { b.cell r with word := (b.cell r).written value, writesLeft := some n }, []⟩
      | none         =>
        ⟨.ok (), (b.record (.write r value)).setCell r
          { b.cell r with word := (b.cell r).written value }, []⟩ := by
  unfold write
  simp only [Action.run_get_bind, Action.run_set_bind]
  cases (b.cell r).writesLeft with
  | none => rfl
  | some n => cases n <;> rfl

/-! ### Plain registers -/

variable {b r} {word : UInt32}

lemma run_read_of_plain (h : b.cell r = .plain word) :
    (read r).run filter b = ⟨.ok word, b.record (.read r), []⟩ := by
  rw [run_read, h, Cell.shown_plain]
  rfl

lemma run_write_of_plain (h : b.cell r = .plain word) (value : UInt32) :
    (write r value).run filter b =
      ⟨.ok (), (b.record (.write r value)).setCell r (.plain value), []⟩ := by
  rw [run_write, h, Cell.written_plain]
  rfl

end Bank

end ClockStretch
