import ClockStretch.RegisterBlock

/-!
# Windows onto physical memory

A window shows some bytes of a device from a base address on. A device is mapped in whole pages,
so the mapping starts at the page of the base address and the window inside this page. Only whole
32-bit words inside the window can be accessed. Several windows onto one device show the same
bytes.
-/

namespace ClockStretch

/-- The size of a page, in bytes. The number stands for what the system reports when it is asked.
The asking itself is left out, with its fallback and its failure. -/
def pageSize : Nat := 4096

/-- The number of addresses, which lengths stay below. -/
def addressSpace : Nat := UInt64.size

/-- The number of offsets into a file. -/
def offsetLimit : Nat := UInt64.size / 2

/-- The end of the addresses that a process can map. -/
def mappableSpace : Nat := 0x800000000000

/-- A window onto a device, with the location of the file that stands behind it. -/
structure Window where
  file : Location
  base : UInt64
  length : UInt64
deriving DecidableEq, Repr

namespace Window

/-- The distance of an address from the start of its page. -/
def offsetInPage (base : UInt64) : Nat := base.toNat % pageSize

/-- The start of the page of an address. -/
def pageBase (base : UInt64) : Nat := base.toNat - offsetInPage base

/-- The bytes that a mapping needs from the start of the page to the end of the window. -/
def mappingLength (base length : UInt64) : Nat := offsetInPage base + length.toNat

/-- A length in whole pages. -/
def roundToPages (length : Nat) : Nat := (length + pageSize - 1) / pageSize * pageSize

/-- Why the arguments of a window are refused before any file is looked at. -/
def refusal? (base length : UInt64) : Option MemoryError :=
  if length = 0 then some .emptyWindow
  else if base.toNat % 4 ≠ 0 then some (.misaligned base)
  else if offsetLimit ≤ pageBase base then some (.addressOutOfRange base)
  else if addressSpace ≤ mappingLength base length then some .emptyWindow
  else none

/-- Why the system refuses to map a file from an offset on. -/
def mapRefusal? (node : Node) (offset length : Nat) : Option Errno :=
  let pages := roundToPages length
  if mappableSpace ≤ pages then some .outOfMemory
  else match node with
    | .regular _ => if offsetLimit ≤ offset + pages then some .overflow else none
    | _          => some .noDevice

/-- A window of a length onto a device, from a base address on. -/
def openAt (device : Path) (base length : UInt64) : Action FileSystem Window := do
  if let some e := refusal? base length then Action.failMemory e
  let fs ← Action.get
  match fs.openForWriting device with
  | .error cause => Action.failMemory (.openFailed device cause)
  | .ok file     =>
    Action.tell (.mapping device base (pageBase base) (mappingLength base length))
    let node := (fs.node? file).getD .directory
    if let some cause := mapRefusal? node (pageBase base) (mappingLength base length) then
      Action.failMemory (.mapFailed base cause)
    pure ⟨file, base, length⟩

/-- Whether an offset is the one of a whole word inside the window. -/
def accepts (w : Window) (offset : UInt64) : Bool :=
  offset.toNat + 4 ≤ w.length.toNat && offset.toNat % 4 == 0

/-- The position in the file that an offset into the window stands for. -/
def position (w : Window) (offset : UInt64) : Nat :=
  pageBase w.base + (offsetInPage w.base + offset.toNat)

/-- The word at an offset. -/
def readWord (w : Window) (offset : UInt64) : Action FileSystem UInt32 := do
  if ! w.accepts offset then Action.failMemory (.outOfWindow offset w.length)
  let fs ← Action.get
  let value := ((fs.contents? w.file).getD (.zeros 0)).loadWord (w.position offset)
  Action.tell (.wordRead offset value)
  pure value

/-- A word written at an offset. -/
def writeWord (w : Window) (offset : UInt64) (value : UInt32) : Action FileSystem Unit := do
  if ! w.accepts offset then Action.failMemory (.outOfWindow offset w.length)
  Action.tell (.wordWritten offset value)
  let fs ← Action.get
  let contents := (fs.contents? w.file).getD (.zeros 0)
  Action.set (fs.setContents w.file (contents.storeWord (w.position offset) value))

/-- The window unmapped. -/
def unmap (w : Window) : Action FileSystem Unit := Action.tell (.unmapping w.base)

/-- The window as a block of registers, which starts at its base. -/
def block (w : Window) : RegisterBlock FileSystem where
  read r := w.readWord (UInt64.ofNat r.offset)
  write r value := w.writeWord (UInt64.ofNat r.offset) value

/-- A window of the size of a block of registers. -/
def openBlock (device : Path) (base : BaseAddress) : Action FileSystem Window :=
  openAt device base.value (UInt64.ofNat Register.blockSize)

end Window

end ClockStretch
