import Std.Data.TreeMap

/-!
# Contents of a file

A file has a size and a byte at every position; positions that were never stored hold zero, so
that large files cost only what was stored in them. A 32-bit word lies in memory with its low
byte first.
-/

namespace ClockStretch

/-- The contents of a regular file. Bytes behind the size belong to the last page of a mapping,
not to the file. -/
structure Contents where
  size : Nat
  stored : Std.TreeMap Nat UInt8

namespace Contents

/-- A file of zero bytes. -/
def zeros (size : Nat) : Contents := ⟨size, ∅⟩

/-- The byte at a position. -/
def byteAt (c : Contents) (position : Nat) : UInt8 := c.stored.getD position 0

/-- The contents with another byte at a position. -/
def storeByte (c : Contents) (position : Nat) (b : UInt8) : Contents :=
  { c with stored := c.stored.insert position b }

/-- The contents with other bytes from a position on. -/
def storeBytes (c : Contents) : Nat → List UInt8 → Contents
  | _,        []      => c
  | position, b :: bs => (c.storeByte position b).storeBytes (position + 1) bs

/-- A file that holds just the given bytes. -/
def ofBytes (bytes : List UInt8) : Contents := (zeros bytes.length).storeBytes 0 bytes

/-- The bytes of the file in order. -/
def bytes (c : Contents) : List UInt8 := (List.range c.size).map c.byteAt

/-- The word with the given four bytes, the low one first. -/
def wordOfBytes (b₀ b₁ b₂ b₃ : UInt8) : UInt32 :=
  b₀.toUInt32 ||| b₁.toUInt32 <<< 8 ||| b₂.toUInt32 <<< 16 ||| b₃.toUInt32 <<< 24

/-- The bytes of a word, the low one first. -/
def bytesOfWord (w : UInt32) : List UInt8 :=
  [w.toUInt8, (w >>> 8).toUInt8, (w >>> 16).toUInt8, (w >>> 24).toUInt8]

/-- The word at a position. -/
def loadWord (c : Contents) (position : Nat) : UInt32 :=
  wordOfBytes (c.byteAt position) (c.byteAt (position + 1)) (c.byteAt (position + 2))
    (c.byteAt (position + 3))

/-- The contents with another word at a position. -/
def storeWord (c : Contents) (position : Nat) (w : UInt32) : Contents :=
  c.storeBytes position (bytesOfWord w)

/-- The contents without the bytes behind the size. -/
def cut (c : Contents) : Contents :=
  { c with stored := c.stored.filter fun position _ => position < c.size }

/-- The words at the positions divisible by four that are not zero, in ascending order. A last
word that the file holds only in part is filled with zeros. -/
def words (c : Contents) : List (Nat × UInt32) :=
  let c := c.cut
  let starts := (c.stored.keys.map (· / 4)).eraseReps
  (starts.map fun i => (4 * i, c.loadWord (4 * i))).filter fun (_, w) => w != 0

end Contents

end ClockStretch
