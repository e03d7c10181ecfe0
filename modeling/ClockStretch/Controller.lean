import ClockStretch.RegisterBlock

/-!
# The controller

What is done with the registers of a controller, whatever the block behind them: taking a snapshot
of the registers, reading the timeout, and setting it. A snapshot leaves out the register whose
read takes a byte out of the FIFO, and stops at the first read that fails.
-/

namespace ClockStretch

/-- The values of the registers at one time; a register that was not read has none. -/
structure Snapshot where
  value : Register → Option UInt32

namespace Snapshot

/-- The snapshot of no register. -/
def none : Snapshot := ⟨fun _ => .none⟩

/-- The snapshot with the value of one more register. -/
def add (s : Snapshot) (r : Register) (w : UInt32) : Snapshot :=
  ⟨fun q => if q = r then some w else s.value q⟩

/-- The registers with their values, in the order of the layout. -/
def entries (s : Snapshot) : List (Register × Option UInt32) :=
  Register.all.map fun r => (r, s.value r)

end Snapshot

namespace Controller

variable {σ : Type} (block : RegisterBlock σ)

/-- The given registers read in order, those left out whose reads have side effects. -/
def readAll : List Register → Snapshot → Action σ Snapshot
  | [],      snapshot => pure snapshot
  | r :: rs, snapshot =>
    if r.readHasSideEffects then readAll rs snapshot
    else do
      let w ← block.read r
      readAll rs (snapshot.add r w)

/-- The values of all registers whose reads have no side effects. -/
def snapshot : Action σ Snapshot := readAll block Register.all .none

/-- The timeout in a word of the clock-stretch register. -/
def timeoutOf (word : UInt32) : UInt16 := (word &&& Register.timeoutMask).toUInt16

/-- The timeout that the controller holds. -/
def clockStretchTimeout : Action σ UInt16 := do
  let word ← block.read .clockStretch
  pure (timeoutOf word)

/-- The timeout written, with the reserved bits zero, and what the controller holds afterwards.
Another value than the one written is told, and is no failure. -/
def setClockStretchTimeout (timeout : Timeout) : Action σ UInt16 := do
  block.write .clockStretch timeout.cycles.toUInt32
  let tout ← clockStretchTimeout block
  if tout = timeout.cycles then Action.tell (.timeoutSet tout)
  else Action.tell (.readBackDiffers timeout.cycles tout)
  pure tout

/-- The events that tell a snapshot. -/
def snapshotEvents (stage : Log.Stage) (s : Snapshot) : List Log.Event :=
  s.entries.map fun
    | (r, some w) => .register stage r w
    | (r, .none)  => .registerSkipped stage r

/-- Events told in order. -/
def tellAll : List Log.Event → Action σ Unit
  | []      => pure ()
  | e :: es => do
    Action.tell e
    tellAll es

/-- A snapshot told, or its failure; nothing is read if it would not be told. -/
def tellSnapshot (stage : Log.Stage) : Action σ Unit :=
  Action.whenEnabled .controller .debug do
    match ← (snapshot block).attempt with
    | .ok s    => tellAll (snapshotEvents stage s)
    | .error e => Action.tell (.snapshotFailed stage e)

/-- The timeout set, with snapshots told before and after, and what the controller holds then. -/
def apply (timeout : Timeout) : Action σ UInt16 := do
  tellSnapshot block .before
  let tout ← setClockStretchTimeout block timeout
  tellSnapshot block .after
  pure tout

end Controller

end ClockStretch
