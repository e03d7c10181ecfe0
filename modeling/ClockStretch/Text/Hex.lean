/-!
# Hexadecimal text

Numbers in lower-case hexadecimal behind `0x`, filled with zeros up to a least count of digits.
-/

namespace ClockStretch.Text

/-- The lower-case hexadecimal digits of a number, at least `count` of them. -/
def hexDigits (count n : Nat) : List Char :=
  let digits := Nat.toDigits 16 n
  List.replicate (count - digits.length) '0' ++ digits

/-- A number in hexadecimal with its `0x`, with at least `count` digits. -/
def hex (count n : Nat) : String :=
  "0x" ++ String.ofList (hexDigits count n)

end ClockStretch.Text
