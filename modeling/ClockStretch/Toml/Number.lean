import ClockStretch.Toml.Quoting
import ClockStretch.Text.Binary64

/-!
# Numbers and times of TOML

Readers for integers of 64 bits in four radixes, for floats, and for dates and times, which are
recognised with their ranges but not kept.
-/

namespace ClockStretch.Toml

/-- Digits of a radix with single underscores between them. -/
def digitTail (radix : Nat) : List Char → List Char × List Char
  | []     => ([], [])
  | c :: s =>
    let isDigit (c : Char) : Bool := (Text.digitValue? radix c).isSome
    if isDigit c then
      let (cs, s) := digitTail radix s
      (c :: cs, s)
    else if c == '_' && s.head?.any isDigit then digitTail radix s
    else ([], c :: s)

/-- Digits of a radix, at least one, with single underscores between them. -/
def readDigitGroups (radix : Nat) (s : List Char) : Option (List Char × List Char) :=
  if s.head?.any fun c => (Text.digitValue? radix c).isSome then some (digitTail radix s) else none

/-- The digits of a decimal integer, which does not start with a zero unless it is one digit. -/
def readDecimalDigits : List Char → Option (List Char × List Char)
  | '0' :: s => some (['0'], s)
  | s        => readDigitGroups 10 s

/-- An integer in another radix, behind its two letters. -/
def readRadixInteger (radix : Nat) (s : List Char) : Option (Int × List Char) := do
  let (digits, s) ← readDigitGroups radix s
  let n := Text.digitsValue radix digits
  if n < Text.signedBound then some ((n : Int), s) else none

/-- An integer of 64 bits. -/
def readInteger (s : List Char) : Option (Int × List Char) :=
  match s with
  | '0' :: 'x' :: s => readRadixInteger 16 s
  | '0' :: 'o' :: s => readRadixInteger 8 s
  | '0' :: 'b' :: s => readRadixInteger 2 s
  | s               => do
    let (negative, s) := Text.readSign s
    let (digits, s) ← readDecimalDigits s
    let n : Int := Text.digitsValue 10 digits
    let i := if negative then -n else n
    if -(Text.signedBound : Int) ≤ i ∧ i < Text.signedBound then some (i, s) else none

/-! ### Floats -/

/-- The exponent of a float, if there is one. -/
def readExponent? : List Char → Option (Option Int × List Char)
  | c :: s =>
    if c = 'e' ∨ c = 'E' then do
      let (negative, s) := Text.readSign s
      let (digits, s) ← readDigitGroups 10 s
      let e : Int := Text.digitsValue 10 digits
      some (some (if negative then -e else e), s)
    else some (none, c :: s)
  | []     => some (none, [])

/-- The digits behind the point of a float, if there is one. -/
def readFraction? : List Char → Option (Option (List Char) × List Char)
  | '.' :: s => do
    let (digits, s) ← readDigitGroups 10 s
    some (some digits, s)
  | s        => some (none, s)

/-- Infinity and not-a-number, by their words. -/
def readSpecialFloat (negative : Bool) : Reader Text.Binary64
  | 'i' :: 'n' :: 'f' :: s => some (.infinite negative, s)
  | 'n' :: 'a' :: 'n' :: s => some (.nan, s)
  | _                      => none

/-- A float with a fraction or an exponent. A positive one that is too large is refused. -/
def readDigitFloat (s : List Char) : Option (Text.Binary64 × List Char) := do
  let (negative, s) := Text.readSign s
  let (whole, s) ← readDecimalDigits s
  let (fraction?, s) ← readFraction? s
  let (exponent?, s) ← readExponent? s
  if fraction?.isNone ∧ exponent?.isNone then none
  let fraction := fraction?.getD []
  let x := Text.Binary64.ofDecimal negative (Text.digitsValue 10 (whole ++ fraction))
    (exponent?.getD 0 - fraction.length)
  if x = .infinite false then none else some (x, s)

/-- A float. -/
def readFloat (s : List Char) : Option (Text.Binary64 × List Char) :=
  readDigitFloat s <|> (let (negative, s) := Text.readSign s; readSpecialFloat negative s)

/-! ### Dates and times -/

/-- A number of a fixed count of digits within a range. -/
def readFixed (count low high : Nat) : Reader Nat := fun s =>
  let digits := s.take count
  let n := Text.digitsValue 10 digits
  if digits.length = count ∧ digits.all Char.isDigit ∧ low ≤ n ∧ n ≤ high then
    some (n, s.drop count)
  else none

/-- One given character. -/
def readChar (c : Char) : Reader Unit
  | d :: s => if d = c then some ((), s) else none
  | []     => none

/-- The last day of a month. -/
def lastDay (year month : Nat) : Nat :=
  if month = 2 then
    if year % 4 = 0 ∧ (year % 100 ≠ 0 ∨ year % 400 = 0) then 29 else 28
  else if month ∈ [4, 6, 9, 11] then 30 else 31

/-- A date. -/
def readDate : Reader Unit := fun s => do
  let (year, s) ← readFixed 4 0 9999 s
  let ((), s) ← readChar '-' s
  let (month, s) ← readFixed 2 1 12 s
  let ((), s) ← readChar '-' s
  let (_, s) ← readFixed 2 1 (lastDay year month) s
  some ((), s)

/-- A time of day. -/
def readTime : Reader Unit := fun s => do
  let (_, s) ← readFixed 2 0 23 s
  let ((), s) ← readChar ':' s
  let (_, s) ← readFixed 2 0 59 s
  let ((), s) ← readChar ':' s
  let (_, s) ← readFixed 2 0 60 s
  match s with
  | '.' :: t =>
    if t.head?.any Char.isDigit then some ((), t.dropWhile Char.isDigit) else some ((), s)
  | s        => some ((), s)

/-- The distance from universal time. -/
def readOffset : Reader Unit
  | 'Z' :: s => some ((), s)
  | 'z' :: s => some ((), s)
  | c :: s   =>
    if c = '+' ∨ c = '-' then do
      let (_, s) ← readFixed 2 0 23 s
      let ((), s) ← readChar ':' s
      let (_, s) ← readFixed 2 0 59 s
      some ((), s)
    else none
  | []       => none

/-- The time behind a date, if there is one, and its distance from universal time. -/
def readTimeOfDate : Reader Unit
  | c :: s =>
    if c = 'T' ∨ c = 't' ∨ c = ' ' then
      match readTime s with
      | some ((), s) => readOffset s <|> some ((), s)
      | none         => some ((), c :: s)
    else some ((), c :: s)
  | []     => some ((), [])

/-- A date, a time, or both. -/
def readMoment (s : List Char) : Option (Unit × List Char) :=
  match readDate s with
  | some ((), s) => readTimeOfDate s
  | none         => readTime s

end ClockStretch.Toml
