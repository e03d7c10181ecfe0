import ClockStretch.Config
import ClockStretch.Log.Verbosity
import ClockStretch.Request
import ClockStretch.Text.Controls

/-!
# Command lines

What the command line can say: two texts in fixed places, two options with a path, and switches.
-/

namespace ClockStretch

/-- What a command line says. -/
structure CommandLine where
  baseAddress : String
  timeout : String
  config? : Option Path
  device? : Option Path
  json : Bool
  verbose : UInt8
  quiet : Bool
deriving DecidableEq, Repr

namespace CommandLine

/-- How much the user wants to be told. -/
def verbosity (c : CommandLine) : Log.Verbosity := .ofRequests c.quiet c.verbose.toNat

/-- The request that the two texts make. -/
def request (c : CommandLine) : Except Error Request := Request.parse c.baseAddress c.timeout

/-- The configuration with what the command line says instead. -/
def override (c : CommandLine) (config : Config) : Config where
  device := ⟨c.device?.getD config.device.path⟩
  output := ⟨c.json || config.output.json⟩

/-! ### Parts of the command line -/

/-- A text in a fixed place. -/
inductive Positional where
  | baseAddress
  | timeout
deriving DecidableEq, Repr

/-- An option with a path. -/
inductive PathOption where
  | config
  | device
deriving DecidableEq, Repr

/-- An option without a value. -/
inductive Switch where
  | json
  | verbose
  | quiet
  | help
  | version
deriving DecidableEq, Repr

/-- An option of any kind. -/
inductive Choice where
  | path (o : PathOption)
  | switch (s : Switch)
deriving DecidableEq, Repr

/-- How an option with a path is named in errors. -/
def PathOption.display : PathOption → String
  | .config => "--config <FILE>"
  | .device => "--device <PATH>"

/-- How a switch is named in errors; one that may be given several times has dots. -/
def Switch.display : Switch → String
  | .json    => "--json"
  | .verbose => "--verbose..."
  | .quiet   => "--quiet"
  | .help    => "--help"
  | .version => "--version"

/-- The option with a long name. -/
def Choice.ofLong? : String → Option Choice
  | "config"  => some (.path .config)
  | "device"  => some (.path .device)
  | "json"    => some (.switch .json)
  | "verbose" => some (.switch .verbose)
  | "quiet"   => some (.switch .quiet)
  | "help"    => some (.switch .help)
  | "version" => some (.switch .version)
  | _         => none

/-- The option with a letter. -/
def Choice.ofLetter? : Char → Option Choice
  | 'c' => some (.path .config)
  | 'd' => some (.path .device)
  | 'v' => some (.switch .verbose)
  | 'q' => some (.switch .quiet)
  | 'h' => some (.switch .help)
  | 'V' => some (.switch .version)
  | _   => none

/-! ### Command lines that are not followed -/

/-- Why a command line cannot be followed. -/
inductive UsageFault where
  | missingArguments
  | unknownArgument (argument : String)
  | missingValue (o : PathOption)
  | repeated (option : String)
  | unexpectedValue (value : String) (s : Switch)
  | notText
deriving DecidableEq, Repr

/-- A style of a part of a text: what announces a fault, what is at fault, a name that stands for
itself, and a heading. -/
inductive Style where
  | fault
  | wrong
  | name
  | heading
deriving DecidableEq, Repr

/-- The sequences that turn a style on: bold and red, yellow, bold, and bold and underlined. -/
def Style.codes : Style → String
  | .fault   => "\x1b[1m\x1b[31m"
  | .wrong   => "\x1b[33m"
  | .name    => "\x1b[1m"
  | .heading => "\x1b[1m\x1b[4m"

/-- How the texts about a command line are presented: in styles, or without styles and controls. -/
inductive Presentation where
  | plain (medium : Text.Medium)
  | styled
deriving DecidableEq, Repr

/-- A part of a text in a style. -/
def Presentation.render (p : Presentation) (style : Style) (part : String) : String :=
  match p with
  | .plain medium => Text.withoutControls medium part
  | .styled       => style.codes ++ part ++ "\x1b[0m"

/-- The wording of a fault. -/
def UsageFault.message (p : Presentation) (fault : UsageFault) : String :=
  let cause :=
    match fault with
    | .missingArguments        => "the following required arguments were not provided:"
    | .unknownArgument a       => s!"unexpected argument '{p.render .wrong a}' found"
    | .missingValue o          =>
      s!"a value is required for '{p.render .wrong o.display}' but none was supplied"
    | .repeated option         =>
      s!"the argument '{p.render .wrong option}' cannot be used multiple times"
    | .unexpectedValue value s =>
      s!"unexpected value '{p.render .wrong value}' for '{p.render .name s.display}' found; " ++
        "no more were expected"
    | .notText                 => "invalid UTF-8 was detected in one or more arguments"
  p.render .fault "error:" ++ " " ++ cause

/-- What is done instead of following a command line. -/
inductive Detour where
  | help
  | version
  | fault (f : UsageFault)
deriving DecidableEq, Repr

/-- The first line of a text. A carriage return before the line end belongs to the line end. -/
def firstLine (s : String) : String :=
  match s.toList.span (· != '\n') with
  | (line, [])    => String.ofList line
  | (line, _ :: _) =>
    String.ofList (if line.getLast? = some '\r' then line.dropLast else line)

/-- The text that describes the command line. -/
def helpText (p : Presentation) : String :=
  let heading := p.render .heading
  let name := p.render .name
  String.join (List.map (· ++ "\n")
    ["Set the I2C clock-stretch timeout on Broadcom SoCs",
      "",
      heading "Usage:" ++ " " ++ name "i2c-set-tout" ++ " [OPTIONS] <BASE_ADDRESS> <TIMEOUT>",
      "",
      heading "Arguments:",
      "  <BASE_ADDRESS>  Physical base address of the controller, decimal or 0x-prefixed hex, " ++
        "underscores allowed in either (e.g. 0x2080_4000 for BSC1 on BCM2835)",
      "  <TIMEOUT>       Clock-stretch timeout in SCL cycles, 1 to 65535",
      "",
      heading "Options:",
      "  " ++ name "-c" ++ ", " ++ name "--config" ++ " <FILE>  Path to custom configuration file",
      "  " ++ name "-d" ++ ", " ++ name "--device" ++
        " <PATH>  Memory device to map (overrides configuration)",
      "      " ++ name "--json" ++ "           Output as JSON",
      "  " ++ name "-v" ++ ", " ++ name "--verbose" ++
        "...     Increase verbosity (-v for debug, -vv for trace)",
      "  " ++ name "-q" ++ ", " ++ name "--quiet" ++
        "          Suppress all output except errors",
      "  " ++ name "-h" ++ ", " ++ name "--help" ++ "           Print help",
      "  " ++ name "-V" ++ ", " ++ name "--version" ++ "        Print version"])

/-- The text that names the program and its version. -/
def versionText : String := "i2c-set-tout 0.1.0\n"

namespace Detour

/-- The text of a detour. Of the wording of a fault it is the first line. -/
def message (p : Presentation) : Detour → String
  | .help    => helpText p
  | .version => versionText
  | .fault f => firstLine (f.message p)

/-- The exit status of a detour. -/
def status : Detour → UInt8
  | .fault _ => 2
  | _        => 0

end Detour

end CommandLine

end ClockStretch
