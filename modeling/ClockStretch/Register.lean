/-!
# Registers of the controller

The eight 32-bit registers of the serial controller, in the order of their layout.
-/

namespace ClockStretch

/-- A register of the controller. -/
inductive Register where
  | control
  | status
  | dataLength
  | address
  | fifo
  | divider
  | delay
  | clockStretch
deriving DecidableEq, Repr

namespace Register

/-- The registers in the order of their layout. -/
def all : List Register :=
  [.control, .status, .dataLength, .address, .fifo, .divider, .delay, .clockStretch]

/-- The place of a register in the layout. -/
def index : Register → Nat
  | .control      => 0
  | .status       => 1
  | .dataLength   => 2
  | .address      => 3
  | .fifo         => 4
  | .divider      => 5
  | .delay        => 6
  | .clockStretch => 7

/-- The name of a register in the datasheet. -/
def name : Register → String
  | .control      => "C"
  | .status       => "S"
  | .dataLength   => "DLEN"
  | .address      => "A"
  | .fifo         => "FIFO"
  | .divider      => "DIV"
  | .delay        => "DEL"
  | .clockStretch => "CLKT"

/-- The identifier of a register, as a program spells it. -/
def identifier : Register → String
  | .control      => "C"
  | .status       => "S"
  | .dataLength   => "Dlen"
  | .address      => "A"
  | .fifo         => "Fifo"
  | .divider      => "Div"
  | .delay        => "Del"
  | .clockStretch => "Clkt"

/-- The name of a register in data: its identifier in capitals. -/
def tag (r : Register) : String := r.identifier.toUpper

/-- The distance of a register from the base address, in bytes. -/
def offset (r : Register) : Nat := 4 * r.index

/-- Whether a read changes the state of the controller: reading the FIFO takes a byte out of it. -/
def readHasSideEffects (r : Register) : Bool := r = .fifo

/-- The register with a name of the datasheet. -/
def ofName? (s : String) : Option Register := all.find? (·.name = s)

/-- The size of the block of registers, in bytes. -/
def blockSize : Nat := 4 * all.length

/-- The bits of the clock-stretch register that hold the timeout; the others are reserved. -/
def timeoutMask : UInt32 := 0xffff

end Register

end ClockStretch
