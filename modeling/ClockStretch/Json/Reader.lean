import ClockStretch.Json.Fault
import ClockStretch.Text.Numeral
import ClockStretch.Text.Binary64

/-!
# Reading JSON

Readers for the parts of a JSON text: words, strings and numbers. A reader takes a part off the
front of a text and leaves the rest. A reader that stops names the problem and the rest of the
text at that point, from which the place of the fault follows.
-/

namespace ClockStretch.Json

/-- Where a reader stopped: what is wrong, a rest of the text, and how many bytes of this rest count
as read. -/
structure Stop where
  problem : Problem
  rest : List Char
  bytes : Nat
deriving DecidableEq, Repr

/-- A reader of a part at the front of a text. -/
abbrev Reader (α : Type) := List Char → Except Stop (α × List Char)

/-- The stop at a rest of the text, all before it read. -/
def stopAt (problem : Problem) (rest : List Char) : Except Stop α :=
  .error ⟨problem, rest, 0⟩

/-- The stop at a rest of the text whose first byte was looked at. -/
def stopBefore (problem : Problem) (rest : List Char) : Except Stop α :=
  .error ⟨problem, rest, 1⟩

/-- The byte of a line end. -/
def lineEnd : UInt8 := 0x0a

/-- The place of a stop in a text. -/
def Stop.fault (stop : Stop) (text : List Char) : Fault :=
  let before := text.take (text.length - stop.rest.length)
  let read := before.flatMap String.utf8EncodeChar ++
    (stop.rest.flatMap String.utf8EncodeChar).take stop.bytes
  ⟨stop.problem, 1 + read.count lineEnd, (read.reverse.takeWhile (· != lineEnd)).length⟩

/-- White space between the parts of a JSON text. -/
def isBlank (c : Char) : Bool := c == ' ' || c == '\n' || c == '\t' || c == '\r'

/-- The text behind white space. -/
def skipBlanks (s : List Char) : List Char := s.dropWhile isBlank

/-- The rest of a word, letter by letter. -/
def readWord : List Char → List Char → Except Stop (List Char)
  | [],      s      => .ok s
  | _ :: _,  []     => stopAt .endInValue []
  | w :: ws, c :: s => if c = w then readWord ws s else stopBefore .wordExpected (c :: s)

/-! ### Strings -/

/-- The four hexadecimal digits of an escape. Four bytes are taken for them, whatever they are. -/
def readHex4 : Reader Nat := fun s =>
  match Text.readDigits 16 UInt16.size 0 (s.take 4) with
  | .ok n    => if (s.take 4).length = 4 then .ok (n, s.drop 4) else stopAt .endInString []
  | .error _ =>
    if (s.flatMap String.utf8EncodeChar).length < 4 then stopAt .endInString []
    else .error ⟨.invalidEscape, s, 4⟩

/-- The second half of a character that is written as two escapes. -/
def readTrailing (lead : Nat) : Reader Char
  | '\\' :: 'u' :: s => do
    let (n, s) ← readHex4 s
    if n < 0xdc00 ∨ 0xdfff < n then stopAt .loneSurrogate s
    else .ok (Char.ofNat ((lead - 0xd800) * 1024 + (n - 0xdc00) + 0x10000), s)
  | '\\' :: c :: s   => stopBefore .unfinishedEscape (c :: s)
  | '\\' :: []       => stopAt .endInString []
  | c :: s           => stopBefore .unfinishedEscape (c :: s)
  | []               => stopAt .endInString []

/-- The character of an escape, behind its backslash. -/
def readEscape : Reader Char
  | '"' :: s  => .ok ('"', s)
  | '\\' :: s => .ok ('\\', s)
  | '/' :: s  => .ok ('/', s)
  | 'b' :: s  => .ok ('\x08', s)
  | 'f' :: s  => .ok ('\x0c', s)
  | 'n' :: s  => .ok ('\n', s)
  | 'r' :: s  => .ok ('\r', s)
  | 't' :: s  => .ok ('\t', s)
  | 'u' :: s  => do
    let (n, s) ← readHex4 s
    if 0xdc00 ≤ n ∧ n ≤ 0xdfff then stopAt .loneSurrogate s
    else if 0xd800 ≤ n ∧ n ≤ 0xdbff then readTrailing n s
    else .ok (Char.ofNat n, s)
  | c :: s    => stopBefore .invalidEscape (c :: s)
  | []        => stopAt .endInString []

/-- The characters of a string behind its opening quote. The number bounds the characters. -/
def readStringBody : Nat → Reader (List Char)
  | 0,     s         => stopAt .endInString s
  | _ + 1, []        => stopAt .endInString []
  | _ + 1, '"' :: s  => .ok ([], s)
  | n + 1, '\\' :: s => do
    let (c, s) ← readEscape s
    let (cs, s) ← readStringBody n s
    .ok (c :: cs, s)
  | n + 1, c :: s    =>
    if c.toNat < 0x20 then stopAt .controlCharacter s
    else do
      let (cs, s) ← readStringBody n s
      .ok (c :: cs, s)

/-- A string behind its opening quote. -/
def readString : Reader String := fun s => do
  let (cs, s) ← readStringBody (s.length + 1) s
  .ok (String.ofList cs, s)

/-! ### Numbers -/

/-- A number of a JSON text. Whole numbers of 64 bits are kept as they are. -/
inductive Number where
  | unsigned (n : Nat)
  | signed (i : Int)
  | float (x : Text.Binary64)
deriving DecidableEq, Repr

/-- Digits appended to a significand of 64 bits, and the digits for which there is no room. -/
def absorb : Nat → List Char → Nat × List Char
  | n, []     => (n, [])
  | n, c :: s =>
    let m := n * 10 + (c.toNat - '0'.toNat)
    if m < UInt64.size then absorb m s else (n, c :: s)

/-- The number with a significand and an exponent, computed by one rounded step for each 308 places
of the exponent. There is none if it is too large. -/
def ofParts : Nat → Text.Binary64 → Int → Option Text.Binary64
  | 0,     x, _        => some x
  | n + 1, x, exponent =>
    if exponent.natAbs ≤ 308 then
      let power := Text.Binary64.ofDecimal false 1 exponent.natAbs
      if 0 ≤ exponent then
        match x.mul power with
        | .infinite _ => none
        | y           => some y
      else some (x.div power)
    else if x = .finite false 0 Text.Binary64.leastExponent then some x
    else if 0 ≤ exponent then none
    else ofParts n (x.div (Text.Binary64.ofDecimal false 1 308)) (exponent + 308)

/-- The float with a sign, a significand and an exponent. -/
def readParts (negative : Bool) (significand : Nat) (exponent : Int) : Reader Number := fun s =>
  match ofParts 4 (Text.Binary64.ofRatio false significand 1) exponent with
  | some x => .ok (.float (x.withSign negative), s)
  | none   => stopAt .numberOutOfRange s

/-- The magnitude that exponents stay below. -/
def exponentBound : Nat := UInt32.size / 2

/-- Digits appended to an exponent, with the rest behind them, or the rest behind the digit that
takes the exponent out of range. -/
def readExponentDigits : Nat → List Char → Except (List Char) (Nat × List Char)
  | e, []     => .ok (e, [])
  | e, c :: s =>
    if c.isDigit then
      let e := e * 10 + (c.toNat - '0'.toNat)
      if e < exponentBound then readExponentDigits e s else .error s
    else .ok (e, c :: s)

/-- The exponent of a float behind its letter. -/
def readExponent (negative : Bool) (significand : Nat) (start : Int) : Reader Number := fun s =>
  let (below, s) := Text.readSign s
  match s with
  | []        => stopAt .endInValue []
  | c :: rest =>
    if ! c.isDigit then stopBefore .invalidNumber (c :: rest)
    else
      match readExponentDigits 0 s with
      | .ok (e, rest) =>
        let e : Int := if below then start - e else start + e
        readParts negative significand (max (-exponentBound) (min e (exponentBound - 1))) rest
      | .error rest   =>
        if significand ≠ 0 ∧ ! below then stopAt .numberOutOfRange rest
        else
          .ok (.float (.finite negative 0 Text.Binary64.leastExponent), rest.dropWhile Char.isDigit)

/-- The digits of a float behind its point. -/
def readFraction (negative : Bool) (significand : Nat) (start : Int) : Reader Number := fun s =>
  let (digits, rest) := s.span Char.isDigit
  if digits.isEmpty then
    if rest.isEmpty then stopBefore .endInValue rest else stopBefore .invalidNumber rest
  else
    let (significand, left) := absorb significand digits
    let exponent := start - (digits.length - left.length)
    match rest with
    | 'e' :: s => readExponent negative significand exponent s
    | 'E' :: s => readExponent negative significand exponent s
    | s        => readParts negative significand exponent s

/-- A number behind its sign. -/
def readNumber (negative : Bool) : Reader Number
  | []        => stopAt .endInValue []
  | c :: rest =>
    if ! c.isDigit then stopBefore .invalidNumber (c :: rest)
    else if c = '0' ∧ rest.head?.any Char.isDigit then stopBefore .invalidNumber rest
    else
      let (digits, rest) := (c :: rest).span Char.isDigit
      let (significand, left) := absorb 0 digits
      match rest with
      | '.' :: s => readFraction negative significand left.length s
      | 'e' :: s => readExponent negative significand left.length s
      | 'E' :: s => readExponent negative significand left.length s
      | s        =>
        if ! left.isEmpty then readParts negative significand left.length s
        else if ! negative then .ok (.unsigned significand, s)
        else if significand = 0 ∨ Text.signedBound < significand then readParts true significand 0 s
        else .ok (.signed (-significand), s)

end ClockStretch.Json
