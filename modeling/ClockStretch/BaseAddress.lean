import ClockStretch.Text.Blank
import ClockStretch.Error

/-!
# Base addresses

The physical address of the first register of a controller. It has 64 bits and is divisible by
four.
-/

namespace ClockStretch

/-- The address of a controller. -/
structure BaseAddress where
  value : UInt64
  aligned : value.toNat % 4 = 0
deriving DecidableEq, Repr

namespace BaseAddress

/-- The address of a number, or nothing if the number is not divisible by four. -/
def ofUInt64? (value : UInt64) : Option BaseAddress :=
  if h : value.toNat % 4 = 0 then some ⟨value, h⟩ else none

/-- The address of a number that is divisible by four. -/
def ofUInt64 (value : UInt64) : Except Error BaseAddress :=
  match ofUInt64? value with
  | some a => .ok a
  | none   => .error (.invalidAddress (Text.hex 1 value.toNat) .misaligned)

/-- The number of an address in a text without white space and underscores. -/
def readNumber : List Char → Except Text.NumeralError Nat
  | '0' :: 'x' :: digits => Text.readUnsigned 16 UInt64.size digits
  | '0' :: 'X' :: digits => Text.readUnsigned 16 UInt64.size digits
  | digits               => Text.readUnsigned 10 UInt64.size digits

/-- The address that a text writes in decimal, or in hexadecimal behind `0x`, with white space
around it. Underscores count for nothing. -/
def parse (text : String) : Except Error BaseAddress :=
  match readNumber ((Text.trim text.toList).filter (· != '_')) with
  | .error e => .error (.invalidAddress text (.numeral e))
  | .ok n    =>
    match ofUInt64? (UInt64.ofNat n) with
    | some a => .ok a
    | none   => .error (.invalidAddress text .misaligned)

/-- An address in hexadecimal, with at least eight digits. -/
def display (a : BaseAddress) : String := Text.hex 8 a.value.toNat

end BaseAddress

end ClockStretch
