import ClockStretch.Config
import ClockStretch.Json.Value

/-!
# Configuration as JSON

The settings written as a JSON object, and read from a JSON text. The text is read part by part
and the first part that does not fit decides, so a wrong type is found before a fault behind it.
Unknown keys are skipped, whatever their value is. An object may also be given as the list of its
values; missing ones keep their defaults.
-/

namespace ClockStretch.Config

/-- What a part of a JSON text was found to be. -/
inductive JsonFound where
  | null
  | bool (b : Bool)
  | number (n : Json.Number)
  | string (s : String)
  | sequence
  | map
deriving DecidableEq, Repr

/-- Why a JSON text is no configuration. -/
inductive JsonFault where
  | malformed (stop : Json.Stop)
  | mismatch (found : JsonFound) (expected : Expected)
  | repeated (field : String)
deriving DecidableEq, Repr

/-- The wording of what was found. -/
def JsonFound.describe : JsonFound → String
  | .null                 => "null"
  | .bool true            => "boolean `true`"
  | .bool false           => "boolean `false`"
  | .number (.unsigned n) => s!"integer `{n}`"
  | .number (.signed i)   => s!"integer `{i}`"
  | .number (.float x)    => s!"floating point `{x.scientific}`"
  | .string s             => s!"string {Text.quoted s}"
  | .sequence             => "sequence"
  | .map                  => "map"

/-- The wording of a fault. -/
def JsonFault.message : JsonFault → String
  | .malformed stop          => stop.problem.message
  | .mismatch found expected => s!"invalid type: {found.describe}, expected {expected.describe}"
  | .repeated field          => s!"duplicate field `{field}`"

/-- A reader of a part of a configuration. -/
abbrev JsonReader (α : Type) := List Char → Except JsonFault (α × List Char)

/-- A reader of JSON as a reader of a configuration. -/
def plainly (r : Json.Reader α) : JsonReader α := fun s => (r s).mapError .malformed

/-- The refusal of a part that has another type than the one that is wanted. -/
def refuse (expected : Expected) : JsonReader α := fun s => do
  let (found, _) : JsonFound × List Char ←
    match s with
    | []          => plainly (Json.stopBefore .endInValue) []
    | 'n' :: s    => pure (.null, ← (Json.readWord ['u', 'l', 'l'] s).mapError .malformed)
    | 't' :: s    => pure (.bool true, ← (Json.readWord ['r', 'u', 'e'] s).mapError .malformed)
    | 'f' :: s    =>
      pure (.bool false, ← (Json.readWord ['a', 'l', 's', 'e'] s).mapError .malformed)
    | '-' :: s    => do
      let (n, s) ← plainly (Json.readNumber true) s
      pure (.number n, s)
    | '"' :: s    => do
      let (t, s) ← plainly Json.readString s
      pure (.string t, s)
    | '[' :: s    => pure (.sequence, s)
    | '\x7b' :: s => pure (.map, s)
    | c :: s      =>
      if c.isDigit then do
        let (n, s) ← plainly (Json.readNumber false) (c :: s)
        pure (.number n, s)
      else plainly (Json.stopBefore .valueExpected) (c :: s)
  .error (.mismatch found expected)

/-! ### Skipping values -/

/-- The rest behind a string behind its opening quote. Escapes need not give characters. -/
def skipString : List Char → Option (List Char)
  | []                                       => none
  | '"' :: s                                 => some s
  | '\\' :: 'u' :: a :: b :: c :: d :: s     =>
    if [a, b, c, d].all fun c => (Text.digitValue? 16 c).isSome then skipString s else none
  | '\\' :: c :: s                           =>
    if c ∈ ['"', '\\', '/', 'b', 'f', 'n', 'r', 't'] then skipString s else none
  | c :: s                                   => if c.toNat < 0x20 then none else skipString s

/-- The rest behind digits, of which there must be one. -/
def skipDigits (s : List Char) : Option (List Char) :=
  if s.head?.any Char.isDigit then some (s.dropWhile Char.isDigit) else none

/-- The rest behind an exponent, if there is one. -/
def skipExponent : List Char → Option (List Char)
  | c :: s =>
    if c = 'e' ∨ c = 'E' then skipDigits (Text.readSign s).2 else some (c :: s)
  | []     => some []

/-- The rest behind a number behind its sign. -/
def skipNumber (s : List Char) : Option (List Char) := do
  let rest ←
    match s with
    | '0' :: s => if s.head?.any Char.isDigit then none else some s
    | s        => skipDigits s
  match rest with
  | '.' :: s => skipExponent (← skipDigits s)
  | s        => skipExponent s

mutual

/-- The rest behind a value. The number bounds the values inside it. -/
def skipValue : Nat → List Char → Option (List Char)
  | 0,     _ => none
  | n + 1, s =>
    match Json.skipBlanks s with
    | 'n' :: s    => (Json.readWord ['u', 'l', 'l'] s).toOption
    | 't' :: s    => (Json.readWord ['r', 'u', 'e'] s).toOption
    | 'f' :: s    => (Json.readWord ['a', 'l', 's', 'e'] s).toOption
    | '"' :: s    => skipString s
    | '-' :: s    => skipNumber s
    | '[' :: s    =>
      match Json.skipBlanks s with
      | ']' :: s => some s
      | s        => skipItems n s
    | '\x7b' :: s =>
      match Json.skipBlanks s with
      | '\x7d' :: s => some s
      | s           => skipEntries n s
    | s           => skipNumber s

/-- The rest behind the items of a list and its bracket. -/
def skipItems : Nat → List Char → Option (List Char)
  | 0,     _ => none
  | n + 1, s => do
    match Json.skipBlanks (← skipValue n s) with
    | ',' :: s => skipItems n s
    | ']' :: s => some s
    | _        => none

/-- The rest behind the entries of an object and its brace. -/
def skipEntries : Nat → List Char → Option (List Char)
  | 0,     _ => none
  | n + 1, s =>
    match Json.skipBlanks s with
    | '"' :: s => do
      match Json.skipBlanks (← skipString s) with
      | ':' :: s =>
        match Json.skipBlanks (← skipValue n s) with
        | ',' :: s    => skipEntries n s
        | '\x7d' :: s => some s
        | _           => none
      | _        => none
    | _        => none

end

/-- A value skipped. -/
def skip : JsonReader Unit := fun s =>
  match skipValue (2 * s.length + 2) s with
  | some s => .ok ((), s)
  | none   => plainly (Json.stopAt .valueExpected) s

/-! ### Structures -/

/-- The fields of a structure, each with a reader of what its value changes. -/
abbrev JsonFields (α : Type) := List (String × JsonReader (α → α))

/-- The fields given in order as the items of a list, from one of them on. -/
def readItemFields (first : Bool) : JsonFields α → α → JsonReader α
  | [],                  x, s =>
    match Json.skipBlanks s with
    | ']' :: s => .ok (x, s)
    | s        => plainly (Json.stopBefore .trailingCharacters) s
  | (_, field) :: fields, x, s => do
    let (more, s) ←
      if first then
        match Json.skipBlanks s with
        | []       => plainly (Json.stopBefore .endInList) []
        | ']' :: s => pure (false, s)
        | s        => pure (true, s)
      else plainly Json.readItemEnd s
    if more then
      let (change, s) ← field s
      readItemFields false fields (change x) s
    else pure (x, s)

/-- The fields given by name, from the quote of a key on. The number bounds the entries. -/
def readNamedFields (fields : JsonFields α) : Nat → List String → α → JsonReader α
  | 0,     _,    _, s => plainly (Json.stopAt .endInObject) s
  | n + 1, seen, x, s => do
    let (key, s) ← plainly Json.readString s
    let known? := fields.find? (·.1 = key)
    if known?.isSome ∧ key ∈ seen then throw (.repeated key)
    let ((), s) ← plainly Json.readColon s
    let (x, s) ←
      match known? with
      | some (_, field) => do
        let (change, s) ← field s
        pure (change x, s)
      | none            => do
        let ((), s) ← skip s
        pure (x, s)
    let (more, s) ← plainly (Json.readEntryEnd false) s
    if more then readNamedFields fields n (key :: seen) x s
    else pure (x, s)

/-- A structure, as an object or as a list, on top of its defaults. -/
def readStructure (expected : Expected) (fields : JsonFields α) (x : α) : JsonReader α := fun s =>
  match Json.skipBlanks s with
  | '[' :: s    => readItemFields true fields x s
  | '\x7b' :: s => do
    let (more, s) ← plainly (Json.readEntryEnd true) s
    if more then readNamedFields fields (s.length + 1) [] x s
    else pure (x, s)
  | s           => refuse expected s

/-- A path. -/
def readPath : JsonReader Path := fun s =>
  match Json.skipBlanks s with
  | '"' :: s => do
    let (t, s) ← plainly Json.readString s
    pure (.ofText t, s)
  | s        => refuse .path s

/-- A truth value. -/
def readBoolean : JsonReader Bool := fun s =>
  match Json.skipBlanks s with
  | 't' :: s => do pure (true, ← (Json.readWord ['r', 'u', 'e'] s).mapError .malformed)
  | 'f' :: s => do pure (false, ← (Json.readWord ['a', 'l', 's', 'e'] s).mapError .malformed)
  | s        => refuse .boolean s

/-- A reader whose value is put to use. -/
def giving (r : JsonReader α) (f : α → β) : JsonReader β := fun s => do
  let (x, s) ← r s
  pure (f x, s)

/-- Settings of the device. -/
def readDevice : JsonReader DeviceConfig :=
  readStructure .device [("path", giving readPath fun p _ => ⟨p⟩)] default.device

/-- Settings of the output. -/
def readOutput : JsonReader OutputConfig :=
  readStructure .output [("json", giving readBoolean fun b _ => ⟨b⟩)] default.output

/-- All settings. -/
def readConfig : JsonReader Config :=
  readStructure .config
    [("device", giving readDevice fun d c => { c with device := d }),
      ("output", giving readOutput fun o c => { c with output := o })] default

/-- The settings that a whole JSON text gives. -/
def ofJson (text : String) : Except JsonFault Config := do
  let (c, s) ← readConfig text.toList
  match Json.skipBlanks s with
  | [] => pure c
  | s  => throw (.malformed ⟨.trailingCharacters, s, 1⟩)

/-- The settings as a JSON object. -/
def toJson (c : Config) : Json.Value :=
  .object [("device", .object [("path", .string c.device.path.display)]),
    ("output", .object [("json", .bool c.output.json)])]

end ClockStretch.Config
