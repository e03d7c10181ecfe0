import ClockStretch.Text.Binary64

/-!
# Shortest decimals

The decimal text of a floating point number: the fewest digits that round to the number, and of
those the nearest. Two layouts write the digits: a positional one, and one that changes to an
exponent for small and large numbers.
-/

namespace ClockStretch.Text

/-- Which of two equally near decimals is taken: the one above, or the one with an even digit. -/
inductive Tie where
  | up
  | toEven
deriving DecidableEq, Repr

/-- The number `digits * 10 ^ exponent`. -/
structure Decimal where
  digits : Nat
  exponent : Int
deriving DecidableEq, Repr

namespace Binary64

/-- A quotient of naturals times a power of ten, as a quotient of naturals. -/
def timesPowerOfTen (num den : Nat) (e : Int) : Nat × Nat :=
  if e < 0 then (num, den * Nat.pow 10 e.natAbs) else (num * Nat.pow 10 e.natAbs, den)

/-- The power of ten at or below `num / den`, searched near the estimate by bits. -/
def decimalExponent (num den : Nat) : Int :=
  let guess := ((num.log2 : Int) - den.log2) * 30103 / 100000
  let reaches (e : Int) : Bool :=
    let (n, d) := timesPowerOfTen num den (-e)
    d ≤ n
  if reaches (guess + 1) then guess + 1 else if reaches guess then guess
  else if reaches (guess - 1) then guess - 1 else guess - 2

/-- Whether a decimal rounds to `mantissa * 2 ^ exponent`: it lies between the midpoints to the
two neighbours, which belong to the number if its mantissa is even. All is counted in quarters of
the last place. -/
def readsBack (mantissa : Nat) (exponent : Int) (x : Decimal) : Bool :=
  let (n, d) := timesPowerOfTen x.digits 1 x.exponent
  let (n, d) := scaled n d (exponent - 2)
  let below := if mantissa = leastFull ∧ leastExponent < exponent then 1 else 2
  let low := (4 * mantissa - below) * d
  let high := (4 * mantissa + 2) * d
  if mantissa % 2 = 0 then low ≤ n && n ≤ high else low < n && n < high

/-- The nearer of the two neighbours of `mantissa * 2 ^ exponent` on the grid of `count` digits
that reads back, if any does. -/
def onGrid? (tie : Tie) (mantissa : Nat) (exponent power : Int) (count : Nat) : Option Decimal :=
  let place := power + 1 - count
  let (num, den) := toRatio mantissa exponent
  let (n, d) := timesPowerOfTen num den (-place)
  let below : Decimal := ⟨n / d, place⟩
  let above : Decimal := ⟨n / d + 1, place⟩
  match readsBack mantissa exponent below, readsBack mantissa exponent above with
  | true,  true  =>
    let down := 2 * (n % d) < d ∨ (2 * (n % d) = d ∧ tie = .toEven ∧ (n / d) % 2 = 0)
    some (if down then below else above)
  | true,  false => some below
  | false, true  => some above
  | false, false => none

/-- The shortest decimal that rounds to a positive finite number; 17 digits always suffice. -/
def shortest (tie : Tie) (mantissa : Nat) (exponent : Int) : Decimal :=
  if mantissa = 0 then ⟨0, 0⟩
  else
    let (num, den) := toRatio mantissa exponent
    let power := decimalExponent num den
    ((List.range 17).findSome? fun i => onGrid? tie mantissa exponent power (i + 1)).getD
      ⟨mantissa, exponent⟩

end Binary64

namespace Decimal

/-- The digits without trailing zeros, and the exponent of the first of them. -/
def leading (x : Decimal) : List Char × Int :=
  let digits := Nat.toDigits 10 x.digits
  let power := x.exponent + digits.length - 1
  let kept := (digits.reverse.dropWhile (· == '0')).reverse
  if kept.isEmpty then (['0'], 0) else (kept, power)

/-- The digits with a decimal point and no exponent; whole numbers have no point. -/
def positional (x : Decimal) : List Char :=
  let (digits, power) := x.leading
  if power < 0 then ['0', '.'] ++ List.replicate (power.natAbs - 1) '0' ++ digits
  else
    let whole := power.natAbs + 1
    if digits.length ≤ whole then digits ++ List.replicate (whole - digits.length) '0'
    else digits.take whole ++ ['.'] ++ digits.drop whole

/-- The positional text from `10 ^ -5` up to but not including `10 ^ 16`, with a point in whole
numbers too; an exponent with its sign outside this range. -/
def scientific (x : Decimal) : List Char :=
  let (digits, power) := x.leading
  if -6 < power ∧ power < 16 then
    let text := x.positional
    if '.' ∈ text then text else text ++ ['.', '0']
  else
    let mantissa := digits.take 1 ++ (if digits.length = 1 then [] else '.' :: digits.drop 1)
    mantissa ++ ['e', if power < 0 then '-' else '+'] ++ Nat.toDigits 10 power.natAbs

end Decimal

namespace Binary64

/-- The sign of a number in front of its digits. -/
def signed (negative : Bool) (digits : List Char) : String :=
  String.ofList ((if negative then ['-'] else []) ++ digits)

/-- The text of a number with no exponent; of two equally near decimals it takes the one above. -/
def positional : Binary64 → String
  | .nan              => "NaN"
  | .infinite n       => signed n ['i', 'n', 'f']
  | .finite n m q     => signed n (shortest .up m q).positional

/-- The text of a number with an exponent where it is small or large; of two equally near decimals
it takes the even one. -/
def scientific : Binary64 → String
  | .nan              => "NaN"
  | .infinite n       => signed n ['i', 'n', 'f']
  | .finite n m q     => signed n (shortest .toEven m q).scientific

end Binary64

end ClockStretch.Text
