import ClockStretch.CommandLine.Read
import ClockStretch.Config.Load
import ClockStretch.Log.Line

/-!
# The program

From the arguments, the environment and the files to the exit status, the two output texts and
the files. Diagnostics are the lines of the events that were let through, and last the error.
-/

namespace ClockStretch

/-- What the program leaves. -/
structure Finish where
  status : UInt8
  output : String
  diagnostics : String
  files : FileSystem

namespace Program

/-- The filter of events: the one that `RUST_LOG` writes, or else that of the verbosity. -/
def filter (env : Environment) (verbosity : Log.Verbosity) : Log.Filter :=
  ((env.text? "RUST_LOG").bind Log.Filter.ofText?).getD (.ofVerbosity (some verbosity.level))

/-- The layout of log lines: in colour unless `NO_COLOR` is a text that is not empty, and with
targets where everything is told. -/
def layout (env : Environment) (verbosity : Log.Verbosity) : Log.Layout where
  colour := ((env.text? "NO_COLOR").getD "").isEmpty
  showTarget := verbosity = .trace

/-- The wording of an error with what was being done. -/
def inContext (context : String) (e : Error) : String := s!"{context}: {e.report}"

/-- The configuration that a command line selects and overrides, or what is reported instead. -/
def configuration (env : Environment) (fs : FileSystem) (c : CommandLine) :
    Except String Config :=
  let path := c.config?.getD (Config.defaultPath env)
  match Config.load env fs path with
  | .ok config => .ok (c.override config)
  | .error e   => .error (inContext s!"config file {path.display}" e)

/-- What is run once the command line is understood: its request on its configuration. -/
def plan (env : Environment) (fs : FileSystem) (c : CommandLine) :
    Except String (Request × Config) := do
  let request ← c.request.mapError Error.report
  let config ← configuration env fs c
  return (request, config)

/-- A program that failed, with the error in its last line. -/
def failed (report : String) (log : String) (files : FileSystem) : Finish :=
  ⟨1, "", log ++ s!"ERROR {report}\n", files⟩

/-- The program behind an understood command line. -/
def execute (env : Environment) (fs : FileSystem) (c : CommandLine) : Finish :=
  match plan env fs c with
  | .error report         => failed report "" fs
  | .ok (request, config) =>
    let effect := (request.run config.device.path).run (filter env c.verbosity) fs
    let log := String.join (effect.events.map (layout env c.verbosity).line)
    match effect.result with
    | .error e    => failed e.report log effect.state
    | .ok outcome => ⟨0, outcome.render config.output.json ++ "\n", log, effect.state⟩

/-- How a detour is presented: in styles if `CLICOLOR_FORCE` asks for them, unless `NO_COLOR` is
there. -/
def presentation (env : Environment) : CommandLine.Presentation :=
  let forced := (env.nonempty? "CLICOLOR_FORCE").any (· != Text.encodeUtf8 "0")
  if forced ∧ (env.nonempty? "NO_COLOR").isNone then .styled else .plain .stream

/-- What a detour leaves: help and version are output, a fault is a diagnostic. -/
def detoured (env : Environment) (d : CommandLine.Detour) (fs : FileSystem) : Finish :=
  match d with
  | .fault f =>
    ⟨d.status, "", f.message (presentation env) ++ "\n\nFor more information, try '--help'.\n", fs⟩
  | _        => ⟨d.status, d.message (presentation env), "", fs⟩

/-- The program. -/
def run (env : Environment) (fs : FileSystem) (args : List CommandLine.Argument) : Finish :=
  match CommandLine.read args with
  | .ok c    => execute env fs c
  | .error d => detoured env d fs

end Program

end ClockStretch
