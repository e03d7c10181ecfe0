import ClockStretch.Text.Numeral
import ClockStretch.Text.Hex
import ClockStretch.File.System
import ClockStretch.Json.Fault
import ClockStretch.Config.Fault

/-!
# Errors

Everything that can go wrong between the command line and the register, with the wording of each
error and of what caused it.
-/

namespace ClockStretch

/-- A failure that the system reports by number. -/
inductive Errno where
  | notPermitted
  | noSuchFile
  | tryAgain
  | outOfMemory
  | accessDenied
  | noDevice
  | invalidArgument
  | overflow
  | unknown
deriving DecidableEq, Repr

/-- The failure with a number. -/
def Errno.ofCode : Nat → Errno
  | 1  => .notPermitted
  | 2  => .noSuchFile
  | 11 => .tryAgain
  | 12 => .outOfMemory
  | 13 => .accessDenied
  | 19 => .noDevice
  | 22 => .invalidArgument
  | 75 => .overflow
  | _  => .unknown

/-- The wording of a failure. -/
def Errno.message : Errno → String
  | .notPermitted    => "EPERM: Operation not permitted"
  | .noSuchFile      => "ENOENT: No such file or directory"
  | .tryAgain        => "EAGAIN: Try again"
  | .outOfMemory     => "ENOMEM: Out of memory"
  | .accessDenied    => "EACCES: Permission denied"
  | .noDevice        => "ENODEV: No such device"
  | .invalidArgument => "EINVAL: Invalid argument"
  | .overflow        => "EOVERFLOW: Value too large for defined data type"
  | .unknown         => "UnknownErrno: Unknown errno"

/-- Why a text is no timeout or no base address. -/
inductive Reason where
  | numeral (e : Text.NumeralError)
  | misaligned
  | other (text : String)
deriving DecidableEq, Repr

/-- The wording of a reason. -/
def Reason.message : Reason → String
  | .numeral e  => e.message
  | .misaligned => "must be 4-byte aligned"
  | .other text => text

/-- Why physical memory could not be mapped, accessed or unmapped. -/
inductive MemoryError where
  | openFailed (device : Path) (cause : OpenFailure)
  | mapFailed (base : UInt64) (cause : Errno)
  | unmapFailed (cause : Errno)
  | addressOutOfRange (base : UInt64)
  | misaligned (base : UInt64)
  | emptyWindow
  | outOfWindow (offset length : UInt64)
  | pageSizeUnknown (cause : Errno)
deriving DecidableEq, Repr

/-- The wording of a memory error. -/
def MemoryError.message : MemoryError → String
  | .openFailed device _       => s!"driver open failed for {device.display} (try sudo)"
  | .mapFailed base _          => s!"mmap failed at {Text.hex 8 base.toNat}"
  | .unmapFailed _             => "munmap failed"
  | .addressOutOfRange base    =>
    s!"address {Text.hex 1 base.toNat} is out of range for this platform"
  | .misaligned base           => s!"address {Text.hex 1 base.toNat} is not 4-byte aligned"
  | .emptyWindow               => "window length must be greater than 0"
  | .outOfWindow offset length =>
    s!"offset {Text.hex 1 offset.toNat} is outside the {length.toNat}-byte window"
  | .pageSizeUnknown _         => "failed to query page size"

/-- The wording of what caused a memory error. -/
def MemoryError.causes : MemoryError → List String
  | .openFailed _ cause    => [cause.message]
  | .mapFailed _ cause     => [cause.message]
  | .unmapFailed cause     => [cause.message]
  | .pageSizeUnknown cause => [cause.message]
  | _                      => []

/-- Why the timeout could not be set. -/
inductive Error where
  | timeoutOutOfRange (value : Int)
  | invalidTimeout (input : String) (reason : Reason)
  | invalidAddress (input : String) (reason : Reason)
  | memory (e : MemoryError)
  | device (path : Path) (message : String)
  | configLoad (fault : Config.Fault)
  | configInvalid (message : String)
  | unsupported (platform : String)
  | json (fault : Json.Fault)
deriving DecidableEq, Repr

namespace Error

/-- The wording of an error. -/
def message : Error → String
  | .timeoutOutOfRange value     => s!"timeout value must be 1 to 65535 (got {value})"
  | .invalidTimeout input reason => s!"invalid timeout '{input}': {reason.message}"
  | .invalidAddress input reason => s!"invalid base address '{input}': {reason.message}"
  | .memory e                    => e.message
  | .device path message         => s!"invalid memory device {path.display}: {message}"
  | .configLoad fault            => s!"failed to load configuration: {fault.message}"
  | .configInvalid message       => s!"invalid configuration: {message}"
  | .unsupported platform        => s!"unsupported platform: {platform}"
  | .json _                      => "failed to serialize JSON output"

/-- The wording of what caused an error, the nearest cause first. -/
def causes : Error → List String
  | .memory e   => e.causes
  | .json fault => [fault.message]
  | _           => []

/-- The error and its causes in one line. -/
def report (e : Error) : String := ": ".intercalate (e.message :: e.causes)

end Error

end ClockStretch
