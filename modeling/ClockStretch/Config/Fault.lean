import ClockStretch.Config.Setting

/-!
# Faults of a configuration

Why the sources of the configuration could not be read, or do not have the shape that is wanted.
-/

namespace ClockStretch.Config

/-- What a value was found to be. -/
inductive Found where
  | scalar (value : Scalar)
  | sequence
  | map
deriving DecidableEq, Repr

/-- The shape that a value should have. -/
inductive Expected where
  | path
  | boolean
  | device
  | output
  | config
deriving DecidableEq, Repr

/-- Why a configuration could not be loaded. A key is the way of names and places to the value. -/
inductive Fault where
  | malformed
  | notText (shown : String)
  | mismatch (found : Found) (expected : Expected) (key : List String) (origin : Origin)
  | other (message : String)
deriving DecidableEq, Repr

/-- The wording of a scalar. -/
def Scalar.describe : Scalar → String
  | .bool true  => "bool true"
  | .bool false => "bool false"
  | .unsigned n => s!"unsigned int `{n}`"
  | .signed i   => s!"signed int `{i}`"
  | .float x    => s!"float `{x.positional}`"
  | .string s   => s!"string {Text.quoted s}"

/-- The wording of what was found. -/
def Found.describe : Found → String
  | .scalar x  => x.describe
  | .sequence  => "sequence"
  | .map       => "map"

/-- The wording of what is wanted. -/
def Expected.describe : Expected → String
  | .path    => "path string"
  | .boolean => "a boolean"
  | .device  => "struct DeviceConfig"
  | .output  => "struct OutputConfig"
  | .config  => "struct Config"

/-- What a tree was found to be. -/
def Setting.found : Setting → Found
  | .scalar _ x => .scalar x
  | .array _ _  => .sequence
  | .table _ _  => .map

/-- The wording of a source. -/
def Origin.describe : Origin → String
  | .defaults    => "default values"
  | .file shown  => s!"{shown} TOML file"
  | .environment => "`I2CTOUT_` environment variable(s)"

/-- A key as its source spells it: variables are in capitals, and a file has its values under the
profile `default`. -/
def Origin.spell (key : List String) : Origin → String
  | .environment => ".".intercalate (key.map String.toUpper)
  | _            => ".".intercalate ("default" :: key)

/-- The wording of a fault. A malformed file is reported by these words alone, with no place. -/
def Fault.message : Fault → String
  | .malformed     => "TOML parse error"
  | .notText shown => s!"stream did not contain valid UTF-8\n in {shown} TOML file"
  | .mismatch found expected key origin =>
    s!"invalid type: found {found.describe}, expected {expected.describe} " ++
      s!"for key {Text.quoted (origin.spell key)} in {origin.describe}"
  | .other message => message

end ClockStretch.Config
