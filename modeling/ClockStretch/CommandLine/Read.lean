import ClockStretch.CommandLine

/-!
# Reading a command line

A command line is read from left to right, one argument after the other. The value of an option
and a text in its place are kept pending, and take effect when the next thing does; so what is
wrong with them is found then, or at the end, unless the arguments behind are not understood at
all. Missing texts are noticed last.
-/

namespace ClockStretch.CommandLine

/-- The bytes of an argument. -/
abbrev Argument := List UInt8

/-- Something read that has not taken effect: an option that waits for its value, an option with
its value, or a text in its place. -/
inductive Pending where
  | waiting (o : PathOption)
  | value (o : PathOption) (value : Argument)
  | positional (p : Positional) (value : Argument)
deriving DecidableEq, Repr

/-- What has been read. The next place is none when all texts are there, and `onlyTexts` holds
behind the argument `--`. -/
structure Reading where
  baseAddress? : Option String
  timeout? : Option String
  config? : Option Path
  device? : Option Path
  json : Bool
  verbose : UInt8
  quiet : Bool
  pending? : Option Pending
  place? : Option Positional
  onlyTexts : Bool
deriving DecidableEq, Repr

namespace Reading

/-- Nothing read. -/
def start : Reading where
  baseAddress? := none
  timeout? := none
  config? := none
  device? := none
  json := false
  verbose := 0
  quiet := false
  pending? := none
  place? := some .baseAddress
  onlyTexts := false

/-- A fault as the end of the reading. -/
def stop (f : UsageFault) : Except Detour α := .error (.fault f)

/-! ### What takes effect -/

/-- The path that an option has so far. -/
def path? (r : Reading) : PathOption → Option Path
  | .config => r.config?
  | .device => r.device?

/-- An option with its value. A second value is refused, and so is an empty one. -/
def setPath (r : Reading) (o : PathOption) (value : Argument) : Except Detour Reading :=
  if (r.path? o).isSome then stop (.repeated o.display)
  else if value.isEmpty then stop (.missingValue o)
  else match o with
    | .config => .ok { r with config? := some ⟨value⟩ }
    | .device => .ok { r with device? := some ⟨value⟩ }

/-- A text in its place, which has to be UTF-8. -/
def setPositional (r : Reading) (p : Positional) (value : Argument) : Except Detour Reading :=
  match Text.decodeUtf8? value, p with
  | none,      _            => stop .notText
  | some text, .baseAddress => .ok { r with baseAddress? := some text }
  | some text, .timeout     => .ok { r with timeout? := some text }

/-- What is pending takes effect. -/
def settle (r : Reading) : Except Detour Reading :=
  let settled := { r with pending? := none }
  match r.pending? with
  | none                => .ok settled
  | some (.waiting o)   => stop (.missingValue o)
  | some (.value o v)   => settled.setPath o v
  | some (.positional p v) => settled.setPositional p v

/-- A switch after what is pending. The counted one saturates. -/
def setSwitch (r : Reading) (s : Switch) : Except Detour Reading := do
  let r ← r.settle
  match s with
  | .json    => if r.json then stop (.repeated s.display) else .ok { r with json := true }
  | .quiet   => if r.quiet then stop (.repeated s.display) else .ok { r with quiet := true }
  | .verbose => .ok { r with verbose := if r.verbose = 255 then 255 else r.verbose + 1 }
  | .help    => .error .help
  | .version => .error .version

/-- An option with a path after what is pending; without an attached value it waits for one. -/
def setOption (r : Reading) (o : PathOption) (attached? : Option Argument) :
    Except Detour Reading := do
  let r ← r.settle
  match attached? with
  | some value => r.setPath o value
  | none       => .ok { r with pending? := some (.waiting o) }

/-! ### Arguments -/

/-- The byte of an ASCII character. -/
def byte (c : Char) : UInt8 := c.toNat.toUInt8

/-- An argument behind two dashes: a long name, and a value behind an equals sign. -/
def readLong (r : Reading) (arg : Argument) : Except Detour Reading :=
  let name := arg.takeWhile (· != byte '=')
  let value? := if name.length < arg.length then some (arg.drop (name.length + 1)) else none
  match (Text.decodeUtf8? name).bind Choice.ofLong? with
  | none             => stop (.unknownArgument ("--" ++ Text.decodeUtf8Lossy name))
  | some (.path o)   => r.setOption o value?
  | some (.switch s) =>
    match value? with
    | some value => stop (.unexpectedValue (Text.decodeUtf8Lossy value) s)
    | none       => r.setSwitch s

/-- An argument behind one dash: letters of switches, until one of an option with a path takes the
rest as its value. An equals sign before this value is left out. -/
def readLetters (r : Reading) : Argument → Except Detour Reading
  | []        => .ok r
  | b :: rest =>
    match Text.decodeUtf8 (b :: rest) with
    | some c :: _ =>
      match Choice.ofLetter? c with
      | none             => stop (.unknownArgument (String.ofList ['-', c]))
      | some (.switch s) => do
        let r ← r.setSwitch s
        readLetters r rest
      | some (.path o)   =>
        match rest with
        | []     => r.setOption o none
        | e :: v => r.setOption o (some (if e = byte '=' then v else e :: v))
    | _           => stop (.unknownArgument ("-" ++ Text.decodeUtf8Lossy (b :: rest)))

/-- Whether a byte is a decimal digit. -/
def isDigitByte (b : UInt8) : Bool := byte '0' ≤ b && b ≤ byte '9'

/-- Whether an argument behind its dash is a number: digits, with a point and an exponent allowed
behind them. -/
def isNumber (arg : Argument) : Bool :=
  let whole := arg.takeWhile isDigitByte
  let rest := arg.dropWhile isDigitByte
  let rest := if rest.head? = some (byte '.') then (rest.drop 1).dropWhile isDigitByte else rest
  ! whole.isEmpty &&
    match rest with
    | []      => true
    | e :: ds => (e == byte 'e' || e == byte 'E') && ! ds.isEmpty && ds.all isDigitByte

/-- An argument that is no option: the value of the option that waits for one, or the text for the
next place. -/
def readText (r : Reading) (arg : Argument) : Except Detour Reading :=
  match r.pending?, r.onlyTexts with
  | some (.waiting o), false => .ok { r with pending? := some (.value o arg) }
  | _,                 _     =>
    match r.place? with
    | none   => stop (.unknownArgument (Text.decodeUtf8Lossy arg))
    | some p => do
      let r ← r.settle
      let place? :=
        match p with
        | .baseAddress => some .timeout
        | .timeout     => none
      .ok { r with pending? := some (.positional p arg), place? := place? }

/-- One argument. A negative number is a text where the timeout is the next place. -/
def readArgument (r : Reading) (arg : Argument) : Except Detour Reading :=
  if r.onlyTexts then r.readText arg
  else match arg with
    | []       => r.readText arg
    | b :: arg =>
      if b = byte '-' then
        match arg with
        | []        => r.readText (b :: arg)
        | c :: rest =>
          if c = byte '-' then
            if rest.isEmpty then .ok { r with onlyTexts := true } else r.readLong rest
          else if r.place? = some .timeout ∧ isNumber arg then r.readText (b :: arg)
          else r.readLetters arg
      else r.readText (b :: arg)

/-- The command line, when all has taken effect and both texts are there. -/
def finish (r : Reading) : Except Detour CommandLine := do
  let r ← r.settle
  match r.baseAddress?, r.timeout? with
  | some baseAddress, some timeout =>
    .ok {
      baseAddress, timeout
      config? := r.config?
      device? := r.device?
      json := r.json
      verbose := r.verbose
      quiet := r.quiet }
  | _, _ => stop .missingArguments

end Reading

/-- The command line that arguments make. -/
def read (args : List Argument) : Except Detour CommandLine := do
  let r ← args.foldlM Reading.readArgument .start
  r.finish

end ClockStretch.CommandLine
