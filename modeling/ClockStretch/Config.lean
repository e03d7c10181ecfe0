import ClockStretch.Error

/-!
# Configuration

The settings of the program: the device that exposes physical memory, and the form of the output.
-/

namespace ClockStretch

/-- The device that exposes physical memory where no other is named. -/
def memoryDevice : Path := .ofText "/dev/mem"

/-- Settings of the device. -/
structure DeviceConfig where
  path : Path
deriving DecidableEq, Repr

/-- Settings of the output. -/
structure OutputConfig where
  json : Bool
deriving DecidableEq, Repr

/-- All settings. -/
structure Config where
  device : DeviceConfig
  output : OutputConfig
deriving DecidableEq, Repr

namespace Config

/-- The settings where nothing is configured. -/
def default : Config := ⟨⟨memoryDevice⟩, ⟨false⟩⟩

/-- The settings, if they make sense: a device has a path. -/
def validate (c : Config) : Except Error Config :=
  if c.device.path.isEmpty then .error (.configInvalid "device.path must not be empty")
  else .ok c

end Config

end ClockStretch
