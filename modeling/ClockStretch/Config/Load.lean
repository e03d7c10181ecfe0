import ClockStretch.Config
import ClockStretch.Config.Variables
import ClockStretch.Config.Wrapping
import ClockStretch.Toml.Document

/-!
# Loading the configuration

The settings come from three sources: the defaults, a file, and the variables of the environment,
each laid over the one before. From the tree that results the configuration is taken field by
field; a structure may also be given as the array of its fields.
-/

namespace ClockStretch.Config

/-! ### The file -/

/-- The directory for the configurations of a user: the one that `XDG_CONFIG_HOME` names by an
absolute path, else `.config` in the home directory. -/
def userDirectory (env : Environment) : Path :=
  match ((env.get? "XDG_CONFIG_HOME").map Path.mk).filter Path.isAbsolute with
  | some p => p
  | none   =>
    match (env.nonempty? "HOME").map Path.mk <|> env.accountHome? with
    | some home => home.join (.ofText ".config")
    | none      => .ofText ".config"

/-- The path of the file where no other is named. -/
def defaultPath (env : Environment) : Path :=
  ((userDirectory env).join (.ofText "i2ctout")).join (.ofText "config.toml")

/-- The directories from a location up to the root. -/
def upwards (l : Location) : List Location :=
  ((List.range (l.length + 1)).map l.take).reverse

/-- The paths under which a file is looked for: a relative path in the working directory and in
each directory above it. -/
def candidates (fs : FileSystem) (p : Path) : List Path :=
  if p.isAbsolute then [p] else (upwards fs.workingDirectory).map fun l => (Path.ofRoot l).join p

/-- The first candidate that is a regular file, with its contents. -/
def findFile? (fs : FileSystem) (p : Path) : Option (Path × Contents) :=
  (candidates fs p).findSome? fun q => (fs.regularFile? q).map fun c => (q, c)

/-- A path as it is shown in errors: seen from the working directory if that takes fewer names,
where the root counts as a name. -/
def shownPath (fs : FileSystem) (p : Path) : String :=
  let relative := Path.relativeTo fs.workingDirectory p.components
  if relative.length < p.components.length + 1 then (Path.ofNames relative).display else p.display

/-- The settings of a file, which are none if there is no file. -/
def fileSettings (fs : FileSystem) (p : Path) : Except Fault (List (String × Setting)) :=
  match findFile? fs p with
  | none               => .ok []
  | some (q, contents) =>
    let shown := shownPath fs q
    match Text.decodeUtf8? contents.bytes with
    | none      => .error (.notText shown)
    | some text =>
      match (Toml.document? (.file shown) text).bind unwrapEntries? with
      | some settings => .ok settings
      | none          => .error .malformed

/-! ### From settings to the configuration -/

/-- The settings of a configuration, as defaults. -/
def toSettings (c : Config) : List (String × Setting) :=
  [("device", .table .defaults
      [("path", .scalar .defaults (.string c.device.path.display))]),
    ("output", .table .defaults
      [("json", .scalar .defaults (.bool c.output.json))])]

/-- The way of keys to a value. -/
abbrev Key := List String

/-- A field of a structure that is a table or an array, with its key. -/
def field? (expected : Expected) (name : String) (place : Nat) (key : Key) :
    Setting → Except Fault (Option (Key × Setting))
  | .table _ entries => .ok ((entries.lookup name).map fun v => (key ++ [name], v))
  | .array _ items   => .ok (items[place]?.map fun v => (key ++ [toString place], v))
  | .scalar o x      => .error (.mismatch (.scalar x) expected key o)

/-- A path from a string. -/
def pathOf : Key × Setting → Except Fault Path
  | (_, .scalar _ (.string s)) => .ok (.ofText s)
  | (key, v)                   => .error (.mismatch v.found .path key v.origin)

/-- A truth value. -/
def booleanOf : Key × Setting → Except Fault Bool
  | (_, .scalar _ (.bool b)) => .ok b
  | (key, v)                 => .error (.mismatch v.found .boolean key v.origin)

/-- The settings of the device. -/
def deviceOf : Key × Setting → Except Fault DeviceConfig
  | (key, v) => do
    match ← field? .device "path" 0 key v with
    | some field => return ⟨← pathOf field⟩
    | none       => return default.device

/-- The settings of the output. -/
def outputOf : Key × Setting → Except Fault OutputConfig
  | (key, v) => do
    match ← field? .output "json" 0 key v with
    | some field => return ⟨← booleanOf field⟩
    | none       => return default.output

/-- The configuration that settings give; what they leave open is as in the default one. -/
def ofSettings (settings : List (String × Setting)) : Except Fault Config := do
  let device ←
    match settings.lookup "device" with
    | some v => deviceOf (["device"], v)
    | none   => pure default.device
  let output ←
    match settings.lookup "output" with
    | some v => outputOf (["output"], v)
    | none   => pure default.output
  return ⟨device, output⟩

/-- All settings: the defaults, the file over them, and the variables over both. -/
def settings (env : Environment) (fs : FileSystem) (p : Path) :
    Except Fault (List (String × Setting)) := do
  let file ← fileSettings fs p
  return mergeEntries (mergeEntries default.toSettings file) (variableSettings env)

/-- The configuration of an environment and a file, valid as a whole. -/
def load (env : Environment) (fs : FileSystem) (p : Path) : Except Error Config :=
  match settings env fs p >>= ofSettings with
  | .ok c        => c.validate
  | .error fault => .error (.configLoad fault)

end ClockStretch.Config
