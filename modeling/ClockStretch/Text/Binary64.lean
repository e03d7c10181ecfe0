/-!
# Binary floating point numbers of 64 bits

A number is a whole mantissa times a power of two. Every number arises by rounding a quotient of
naturals to the nearest representable one, ties to the even mantissa; reading a decimal, a product
and a quotient are such roundings.
-/

namespace ClockStretch.Text

/-- A floating point number; a finite one is `mantissa * 2 ^ exponent` with its sign. -/
inductive Binary64 where
  | nan
  | infinite (negative : Bool)
  | finite (negative : Bool) (mantissa : Nat) (exponent : Int)
deriving DecidableEq, Repr

namespace Binary64

/-- The least mantissa with all its bits. -/
def leastFull : Nat := 0x10000000000000

/-- The least exponent of a finite number. -/
def leastExponent : Int := -1074

/-- The greatest exponent of a finite number with a full mantissa. -/
def greatestExponent : Int := 971

/-- `num / den` divided by `2 ^ q`, as a quotient of naturals. -/
def scaled (num den : Nat) (q : Int) : Nat × Nat :=
  if q < 0 then (num * Nat.pow 2 q.natAbs, den) else (num, den * Nat.pow 2 q.natAbs)

/-- A quotient rounded to the nearest natural, ties to the even one. -/
def roundDiv (num den : Nat) : Nat :=
  let d := num / den
  let r := num % den
  if den < 2 * r ∨ (den = 2 * r ∧ d % 2 = 1) then d + 1 else d

/-- The exponent under which the mantissa of `num / den` has 53 bits, unless it is too small. -/
def exponentOf (num den : Nat) : Int :=
  let q := max ((num.log2 : Int) - den.log2 - 53) leastExponent
  let (n, d) := scaled num den q
  if 2 * leastFull ≤ n / d then q + 1 else q

/-- The number nearest to `num / den`. -/
def ofRatio (negative : Bool) (num den : Nat) : Binary64 :=
  if num = 0 then .finite negative 0 leastExponent
  else
    let q := exponentOf num den
    let (n, d) := scaled num den q
    let m := roundDiv n d
    let (m, q) := if m = 2 * leastFull then (leastFull, q + 1) else (m, q)
    if greatestExponent < q then .infinite negative else .finite negative m q

/-- The number nearest to `digits * 10 ^ exponent`. Exponents that are out of range for the count
of digits are decided without computing the power. -/
def ofDecimal (negative : Bool) (digits : Nat) (exponent : Int) : Binary64 :=
  let size := (Nat.toDigits 10 digits).length
  if digits = 0 ∨ exponent + size < -400 then .finite negative 0 leastExponent
  else if 400 < exponent + size then .infinite negative
  else if exponent < 0 then ofRatio negative digits (Nat.pow 10 exponent.natAbs)
  else ofRatio negative (digits * Nat.pow 10 exponent.natAbs) 1

/-- A finite number as a quotient of naturals. -/
def toRatio (mantissa : Nat) (exponent : Int) : Nat × Nat :=
  if exponent < 0 then (mantissa, Nat.pow 2 exponent.natAbs)
  else (mantissa * Nat.pow 2 exponent.natAbs, 1)

/-- The rounded product of two positive numbers. -/
def mul : Binary64 → Binary64 → Binary64
  | .finite _ m p, .finite _ n q =>
    let (a, b) := toRatio m p
    let (c, d) := toRatio n q
    ofRatio false (a * c) (b * d)
  | .nan, _ | _, .nan => .nan
  | _, _ => .infinite false

/-- The rounded quotient of two positive numbers, of which the second is finite. -/
def div : Binary64 → Binary64 → Binary64
  | .finite _ m p, .finite _ n q =>
    let (a, b) := toRatio m p
    let (c, d) := toRatio n q
    ofRatio false (a * d) (b * c)
  | .infinite _, .finite .. => .infinite false
  | _, _ => .nan

/-- The number with the given sign. -/
def withSign (negative : Bool) : Binary64 → Binary64
  | .nan          => .nan
  | .infinite _   => .infinite negative
  | .finite _ m q => .finite negative m q

end Binary64

end ClockStretch.Text
