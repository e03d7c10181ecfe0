import ClockStretch.RegisterBlock

/-!
# Banks of registers

A block of registers held in memory. Each register has a word, bits that a write leaves alone,
bits that every read shows as one, and two countdowns after which its reads or writes fail for
good. The bank keeps the accesses that were made, failed ones included.
-/

namespace ClockStretch

/-- An access to a register. -/
inductive Access where
  | read (r : Register)
  | write (r : Register) (value : UInt32)
deriving DecidableEq, Repr

/-- One register of a bank. A countdown is the number of accesses that still succeed. -/
structure Cell where
  word : UInt32
  readOnly : UInt32
  forced : UInt32
  readsLeft : Option Nat
  writesLeft : Option Nat
deriving DecidableEq, Repr

namespace Cell

/-- A register that can be written as a whole and never fails. -/
def plain (word : UInt32) : Cell := ⟨word, 0, 0, none, none⟩

/-- What a read of the register shows. -/
def shown (c : Cell) : UInt32 := c.word ||| c.forced

/-- The word after a write. -/
def written (c : Cell) (value : UInt32) : UInt32 :=
  (c.word &&& c.readOnly) ||| (value &&& ~~~c.readOnly)

end Cell

/-- The registers of a bank, and the accesses in order. -/
structure Bank where
  cell : Register → Cell
  accesses : List Access

namespace Bank

/-- The bank with one register replaced. -/
def setCell (b : Bank) (r : Register) (c : Cell) : Bank :=
  { b with cell := fun q => if q = r then c else b.cell q }

/-- The bank with one more access. -/
def record (b : Bank) (a : Access) : Bank := { b with accesses := b.accesses ++ [a] }

/-- How an access to a register fails. -/
def failure (r : Register) : MemoryError := .outOfWindow (UInt64.ofNat r.offset) 0

/-- A read of a register. -/
def read (r : Register) : Action Bank UInt32 := do
  let b ← Action.get
  Action.set (b.record (.read r))
  let c := b.cell r
  match c.readsLeft with
  | some 0       => Action.failMemory (failure r)
  | some (n + 1) =>
    Action.set ((b.record (.read r)).setCell r { c with readsLeft := some n })
    pure c.shown
  | none         => pure c.shown

/-- A write to a register. -/
def write (r : Register) (value : UInt32) : Action Bank Unit := do
  let b ← Action.get
  Action.set (b.record (.write r value))
  let c := b.cell r
  match c.writesLeft with
  | some 0       => Action.failMemory (failure r)
  | some (n + 1) =>
    Action.set ((b.record (.write r value)).setCell r
      { c with word := c.written value, writesLeft := some n })
  | none         =>
    Action.set ((b.record (.write r value)).setCell r { c with word := c.written value })

/-- The bank as a block of registers. -/
def block : RegisterBlock Bank := ⟨read, write⟩

end Bank

end ClockStretch
