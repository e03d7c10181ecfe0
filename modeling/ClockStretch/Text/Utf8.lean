/-!
# UTF-8

Decoding of bytes into characters. The decoder is a machine that reads one byte at a time; bytes
that are no part of a well-formed sequence give one malformed mark for each longest beginning of
a sequence. A text is accepted as a whole (`decodeUtf8?`) or shown with a replacement character
for every mark (`decodeUtf8Lossy`).
-/

namespace ClockStretch.Text

/-- Where the decoder stands: between two characters, or inside a sequence of which `more` bytes
are missing, the next of them from `low` to `high`, with the bits read so far in `bits`. -/
inductive Utf8State where
  | between
  | inside (more : Nat) (low high : Nat) (bits : Nat)
deriving DecidableEq

/-- What the first byte of a character gives: the character or mark, if it is complete, and the
state that follows. -/
def utf8Lead (b : Nat) : Option (Option Char) × Utf8State :=
  if b < 0x80 then (some (some (Char.ofNat b)), .between)
  else if b < 0xc2 then (some none, .between)
  else if b < 0xe0 then (none, .inside 1 0x80 0xbf (b - 0xc0))
  else if b = 0xe0 then (none, .inside 2 0xa0 0xbf 0)
  else if b = 0xed then (none, .inside 2 0x80 0x9f (b - 0xe0))
  else if b < 0xf0 then (none, .inside 2 0x80 0xbf (b - 0xe0))
  else if b = 0xf0 then (none, .inside 3 0x90 0xbf 0)
  else if b < 0xf4 then (none, .inside 3 0x80 0xbf (b - 0xf0))
  else if b = 0xf4 then (none, .inside 3 0x80 0x8f (b - 0xf0))
  else (some none, .between)

/-- The characters of a byte sequence, and `none` for each malformed mark. -/
def decodeUtf8From : Utf8State → List UInt8 → List (Option Char)
  | .between, []       => []
  | .inside .., []     => [none]
  | .between, b :: bs  =>
    let (mark?, next) := utf8Lead b.toNat
    mark?.toList ++ decodeUtf8From next bs
  | .inside more low high bits, b :: bs =>
    if low ≤ b.toNat ∧ b.toNat ≤ high then
      let bits := bits * 64 + (b.toNat - 0x80)
      if more = 1 then some (Char.ofNat bits) :: decodeUtf8From .between bs
      else decodeUtf8From (.inside (more - 1) 0x80 0xbf bits) bs
    else
      let (mark?, next) := utf8Lead b.toNat
      none :: (mark?.toList ++ decodeUtf8From next bs)

/-- The characters of a byte sequence, and `none` for each malformed mark. -/
def decodeUtf8 (bytes : List UInt8) : List (Option Char) :=
  decodeUtf8From .between bytes

/-- The text that a byte sequence encodes, if it is well formed. -/
def decodeUtf8? (bytes : List UInt8) : Option String :=
  ((decodeUtf8 bytes).mapM id).map String.ofList

/-- The text of a byte sequence, with U+FFFD for each malformed mark. -/
def decodeUtf8Lossy (bytes : List UInt8) : String :=
  String.ofList ((decodeUtf8 bytes).map (·.getD '\ufffd'))

/-- The bytes that encode a text. -/
def encodeUtf8 (s : String) : List UInt8 :=
  s.toUTF8.data.toList

end ClockStretch.Text
