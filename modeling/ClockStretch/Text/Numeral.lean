/-!
# Numerals

Readers for the integer numerals of a radix. The digits are read from left to right, and the first
one that is no digit of the radix, or that takes the value out of range, decides the refusal; at
one position the missing digit comes first. An optional sign precedes the digits, and a lone sign
is an invalid digit. Of decimals there is the form alone.
-/

namespace ClockStretch.Text

/-- Why a text is no numeral of the wanted range. -/
inductive NumeralError where
  | empty
  | invalidDigit
  | tooLarge
  | tooSmall
deriving DecidableEq, Repr

/-- The wording of a refusal. -/
def NumeralError.message : NumeralError → String
  | .empty        => "cannot parse integer from empty string"
  | .invalidDigit => "invalid digit found in string"
  | .tooLarge     => "number too large to fit in target type"
  | .tooSmall     => "number too small to fit in target type"

/-- The magnitude that signed words of 64 bits stay below; the least of them reaches it. -/
def signedBound : Nat := UInt64.size / 2

/-- The value of a character as a digit; letters of either case count from ten. -/
def digitValue? (radix : Nat) (c : Char) : Option Nat :=
  let value? :=
    if '0' ≤ c ∧ c ≤ '9' then some (c.toNat - '0'.toNat)
    else if 'a' ≤ c ∧ c ≤ 'z' then some (c.toNat - 'a'.toNat + 10)
    else if 'A' ≤ c ∧ c ≤ 'Z' then some (c.toNat - 'A'.toNat + 10)
    else none
  value?.filter (· < radix)

/-- The value of digits. -/
def digitsValue (radix : Nat) (digits : List Char) : Nat :=
  digits.foldl (fun n c => n * radix + (digitValue? radix c).getD 0) 0

/-- Digits appended to a value already read; every value on the way stays below `bound`. -/
def readDigits (radix bound : Nat) : Nat → List Char → Except NumeralError Nat
  | value, []     => .ok value
  | value, c :: s =>
    match digitValue? radix c with
    | none   => .error .invalidDigit
    | some d =>
      if value * radix + d < bound then readDigits radix bound (value * radix + d) s
      else .error .tooLarge

/-- Digits with at least one of them. -/
def readNatural (radix bound : Nat) : List Char → Except NumeralError Nat
  | [] => .error .invalidDigit
  | s  => readDigits radix bound 0 s

/-- A numeral below `bound`, with an optional `+`. -/
def readUnsigned (radix bound : Nat) : List Char → Except NumeralError Nat
  | []       => .error .empty
  | '+' :: s => readNatural radix bound s
  | s        => readNatural radix bound s

/-- A decimal numeral from `-bound` up to but not including `bound`, with an optional sign. -/
def readSigned (bound : Nat) : List Char → Except NumeralError Int
  | []       => .error .empty
  | '-' :: s =>
    match readNatural 10 (bound + 1) s with
    | .ok n            => .ok (-n)
    | .error .tooLarge => .error .tooSmall
    | .error e         => .error e
  | '+' :: s => (readNatural 10 bound s).map Int.ofNat
  | s        => (readNatural 10 bound s).map Int.ofNat

/-- Whether an optional sign is a minus, and the text behind it. -/
def readSign : List Char → Bool × List Char
  | '-' :: s => (true, s)
  | '+' :: s => (false, s)
  | s        => (false, s)

/-- Whether a text is a decimal, in which a point and an exponent are allowed, or a word for an
infinity or for what is no number, in any case. -/
def isDecimal (s : List Char) : Bool :=
  let (whole, rest) := s.span Char.isDigit
  let (fraction, rest) :=
    match rest with
    | '.' :: t => t.span Char.isDigit
    | t        => ([], t)
  let ending :=
    match rest with
    | []     => true
    | e :: t =>
      let (_, digits) := readSign t
      (e == 'e' || e == 'E') && ! digits.isEmpty && digits.all Char.isDigit
  ! (whole ++ fraction).isEmpty && ending ||
    ["inf", "infinity", "nan"].contains (String.ofList (s.map Char.toLower))

end ClockStretch.Text
