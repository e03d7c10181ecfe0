import ClockStretch.Log.Filter
import ClockStretch.Register
import ClockStretch.Timeout
import ClockStretch.BaseAddress

/-!
# Events

What the library tells about its work while it works: each kind of event with what it is about,
and from it the level, the target, the message and the named fields of the event.
-/

namespace ClockStretch.Log

/-- When a snapshot of the registers is taken. -/
inductive Stage where
  | before
  | after
deriving DecidableEq, Repr

/-- The name of a stage. -/
def Stage.name : Stage → String
  | .before => "before"
  | .after  => "after"

/-- Something that happened. -/
inductive Event where
  | setting (device : Path) (base : BaseAddress) (timeout : Timeout)
  | mapping (device : Path) (base : UInt64) (pageBase length : Nat)
  | unmapping (base : UInt64)
  | wordRead (offset : UInt64) (value : UInt32)
  | wordWritten (offset : UInt64) (value : UInt32)
  | register (stage : Stage) (register : Register) (value : UInt32)
  | registerSkipped (stage : Stage) (register : Register)
  | snapshotFailed (stage : Stage) (cause : Error)
  | timeoutSet (tout : UInt16)
  | readBackDiffers (requested readBack : UInt16)
deriving DecidableEq, Repr

/-- The value of a field: a number, a text that is quoted in a line, or a text that is shown. -/
inductive FieldValue where
  | number (n : Nat)
  | text (s : String)
  | shown (s : String)
deriving DecidableEq, Repr

namespace Event

/-- How much an event matters. -/
def level : Event → Level
  | .setting ..         => .debug
  | .mapping ..         => .debug
  | .unmapping _        => .debug
  | .wordRead ..        => .trace
  | .wordWritten ..     => .trace
  | .register ..        => .debug
  | .registerSkipped .. => .debug
  | .snapshotFailed ..  => .debug
  | .timeoutSet _       => .info
  | .readBackDiffers .. => .warn

/-- Where an event comes from. -/
def target : Event → Target
  | .setting ..         => .run
  | .mapping ..         => .window
  | .unmapping _        => .window
  | .wordRead ..        => .window
  | .wordWritten ..     => .window
  | .register ..        => .controller
  | .registerSkipped .. => .controller
  | .snapshotFailed ..  => .controller
  | .timeoutSet _       => .controller
  | .readBackDiffers .. => .controller

/-- The words of an event. -/
def message : Event → String
  | .setting ..         => "Setting clock-stretch timeout"
  | .mapping ..         => "Mapping physical memory"
  | .unmapping _        => "Unmapping physical memory"
  | .wordRead ..        => "read"
  | .wordWritten ..     => "write"
  | .register ..        => "register"
  | .registerSkipped .. => "register skipped"
  | .snapshotFailed ..  => "Register snapshot failed"
  | .timeoutSet _       => "Set CLKT.TOUT"
  | .readBackDiffers .. => "CLKT.TOUT read back differs from the value written"

/-- The fields of an event in order. -/
def fields : Event → List (String × FieldValue)
  | .setting device base timeout =>
    [("device", .shown device.display), ("base", .shown base.display),
      ("timeout", .number timeout.cycles.toNat)]
  | .mapping device base pageBase length =>
    [("device", .shown device.display), ("base", .shown (Text.hex 8 base.toNat)),
      ("page_base", .shown (Text.hex 8 pageBase)), ("len", .number length)]
  | .unmapping base => [("base", .shown (Text.hex 8 base.toNat))]
  | .wordRead offset value =>
    [("offset", .shown (Text.hex 2 offset.toNat)), ("value", .number value.toNat)]
  | .wordWritten offset value =>
    [("offset", .shown (Text.hex 2 offset.toNat)), ("value", .number value.toNat)]
  | .register stage r value =>
    [("stage", .text stage.name), ("register", .text r.name),
      ("value", .shown (Text.hex 8 value.toNat))]
  | .registerSkipped stage r =>
    [("stage", .text stage.name), ("register", .text r.name)]
  | .snapshotFailed stage cause =>
    [("stage", .text stage.name), ("error", .shown cause.message)]
  | .timeoutSet tout => [("tout", .number tout.toNat)]
  | .readBackDiffers requested readBack =>
    [("requested", .number requested.toNat), ("read_back", .number readBack.toNat)]

/-- The names of all fields of an event, of which the message is one. -/
def fieldNames (e : Event) : List String := "message" :: e.fields.map (·.1)

end Event

/-- Whether a filter lets an event through. -/
def Filter.passes (f : Filter) (e : Event) : Bool := f.allows e.target e.level (some e.fieldNames)

end ClockStretch.Log
