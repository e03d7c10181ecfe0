import ClockStretch.Action

/-!
# Blocks of registers

The controller is reached through a block of registers, which can be read and written. What the
state behind a block is depends on the block: the memory of a device, or a bank of registers held
in memory.
-/

namespace ClockStretch

/-- Access to the registers of a controller, as actions on the state behind them. -/
structure RegisterBlock (σ : Type) where
  read : Register → Action σ UInt32
  write : Register → UInt32 → Action σ Unit

end ClockStretch
