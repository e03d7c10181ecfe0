import ClockStretch.Text.Blank
import ClockStretch.Error

/-!
# Clock-stretch timeouts

The number of clock cycles that the controller waits for a stretched clock. It has sixteen bits
and is not zero.
-/

namespace ClockStretch

/-- A timeout in cycles of the bus clock. -/
structure Timeout where
  cycles : UInt16
  cycles_pos : 0 < cycles
deriving DecidableEq, Repr

namespace Timeout

/-- The least timeout. -/
def least : UInt16 := 1

/-- The timeout of a number of cycles, from 1 to 65535. -/
def ofInt (value : Int) : Except Error Timeout :=
  let cycles := UInt16.ofNat value.toNat
  if h : 0 < cycles ∧ value = cycles.toNat then .ok ⟨cycles, h.1⟩
  else .error (.timeoutOutOfRange value)

/-- The timeout that a text writes as a decimal numeral, with white space around it. -/
def parse (text : String) : Except Error Timeout :=
  match Text.readSigned Text.signedBound (Text.trim text.toList) with
  | .ok value => ofInt value
  | .error e  => .error (.invalidTimeout text (.numeral e))

/-- The decimal numeral of a timeout. -/
def display (t : Timeout) : String := toString t.cycles.toNat

/-- Timeouts in ascending order, each once. -/
def ascending (ts : List Timeout) : List Timeout :=
  (ts.mergeSort fun a b => a.cycles ≤ b.cycles).eraseReps

end Timeout

end ClockStretch
