import ClockStretch.Text.Blank
import ClockStretch.Environment
import ClockStretch.Config.Setting
import ClockStretch.Toml.Quoting

/-!
# Settings in variables

A variable whose name starts with `I2CTOUT_` gives a setting: the words of the name, which
underscores separate, are the keys that lead to it. Its value is a truth value, a number, a
string, an array or a table; a text that is no value as a whole is a string as it stands.
-/

namespace ClockStretch.Config

open Text (Binary64)

/-! ### Values -/

/-- The characters that end a plain value. -/
def isSeparator (c : Char) : Bool :=
  c == ',' || c == '\x7b' || c == '\x7d' || c == '[' || c == ']'

/-- The text behind white space of ASCII. -/
def skipAsciiBlanks (s : List Char) : List Char := s.dropWhile Text.isAsciiBlank

/-- The exponent that a text is, from its letter to its end; no text is the exponent zero. -/
def wholeExponent? : List Char → Option Int
  | []     => some 0
  | c :: s =>
    let (negative, digits) := Text.readSign s
    if (c = 'e' ∨ c = 'E') ∧ ! digits.isEmpty ∧ digits.all Char.isDigit then
      let e : Int := Text.digitsValue 10 digits
      some (if negative then -e else e)
    else none

/-- The number that a text with a decimal point is. Digits may be missing on one side of the
point. -/
def pointNumber? (s : List Char) : Option Binary64 :=
  let (negative, s) := Text.readSign s
  match s.span Char.isDigit with
  | (whole, '.' :: s) =>
    let (fraction, s) := s.span Char.isDigit
    let digits := whole ++ fraction
    if digits.isEmpty then none
    else (wholeExponent? s).map fun e =>
      .ofDecimal negative (Text.digitsValue 10 digits) (e - fraction.length)
  | _                 => none

/-- A value without parts: a number if it is one, else a string. -/
def plainScalar (s : List Char) : Scalar :=
  match pointNumber? s with
  | some x => .float x
  | none   =>
    match Text.readUnsigned 10 UInt64.size s with
    | .ok n    => .unsigned n
    | .error _ =>
      match Text.readSigned Text.signedBound s with
      | .ok i    => .signed i
      | .error _ => .string (String.ofList s)

/-- A setting that a variable gives. -/
abbrev fromVariable (x : Scalar) : Setting := .scalar .environment x

/-- A key of a table, with white space around it. -/
def readVariableKey (s : List Char) : Option (String × List Char) := do
  let (key, s) ←
    match skipAsciiBlanks s with
    | '"' :: s => Toml.readBasic (s.length + 1) s
    | s        =>
      match s.span Toml.isBare with
      | ([], _) => none
      | (cs, s) => some (cs, s)
  some (String.ofList key, skipAsciiBlanks s)

mutual

/-- A value with white space around it. The number bounds the values inside it. -/
def readVariableValue : Nat → List Char → Option (Setting × List Char)
  | 0,     _ => none
  | n + 1, s => do
    let s := skipAsciiBlanks s
    let (v, s) ←
      match ['t', 'r', 'u', 'e'].isPrefixOf? s, ['f', 'a', 'l', 's', 'e'].isPrefixOf? s with
      | some s, _    => some (fromVariable (.bool true), s)
      | none, some s => some (fromVariable (.bool false), s)
      | none, none   =>
        match s with
        | '\x7b' :: s       => do
          let (entries, s) ← readVariableEntries n s
          some (.table .environment (entries.foldl (fun t (k, v) => Table.put k v t) []), s)
        | '[' :: s          => do
          let (items, s) ← readVariableItems n s
          some (.array .environment items, s)
        | '"' :: s          =>
          (Toml.readBasic (s.length + 1) s).map fun (cs, s) =>
            (fromVariable (.string (String.ofList cs)), s)
        | '\'' :: c :: '\'' :: s =>
          some (fromVariable (.string (String.ofList [c])), s)
        | '\'' :: _         => none
        | s                 =>
          let (cs, s) := s.span (! isSeparator ·)
          some (fromVariable (plainScalar (Text.trim cs)), s)
    some (v, skipAsciiBlanks s)

/-- The items of an array behind its bracket, or behind a comma. A comma may stand before the
closing bracket. -/
def readVariableItems : Nat → List Char → Option (List Setting × List Char)
  | 0,     _        => none
  | _ + 1, ']' :: s => some ([], s)
  | n + 1, s        => do
    let (v, s) ← readVariableValue n s
    match s with
    | ',' :: s => do
      let (vs, s) ← readVariableItems n s
      some (v :: vs, s)
    | ']' :: s => some ([v], s)
    | _        => none

/-- The entries of a table behind its brace, or behind a comma. A comma may stand before the
closing brace. -/
def readVariableEntries : Nat → List Char → Option (List (String × Setting) × List Char)
  | 0,     _           => none
  | _ + 1, '\x7d' :: s => some ([], s)
  | n + 1, s           => do
    let (key, s) ← readVariableKey s
    match s with
    | '=' :: s => do
      let (v, s) ← readVariableValue n s
      match s with
      | ',' :: s    => do
        let (es, s) ← readVariableEntries n s
        some ((key, v) :: es, s)
      | '\x7d' :: s => some ([(key, v)], s)
      | _           => none
    | _        => none

end

/-- The setting that the value of a variable writes. -/
def variableValue (text : String) : Setting :=
  let s := text.toList
  match readVariableValue (2 * s.length + 2) s with
  | some (v, []) => v
  | _            => fromVariable (.string text)

/-! ### Names -/

/-- What the names of the variables start with, in any case. -/
def variablesStart : List Char := "I2CTOUT_".toList

/-- The keys that the name of a variable stands for. A name with an empty word stands for none. -/
def variableKeys? (name : String) : Option (List String) :=
  let s := Text.trim name.toList
  let start := s.take variablesStart.length
  if start.map Char.toUpper = variablesStart then
    let rest := (s.drop variablesStart.length).map fun c => if c = '_' then '.' else c
    let words := (Text.trim rest).splitOn '.'
    if words.any List.isEmpty then none
    else some (words.map fun w => String.ofList (w.map Char.toLower))
  else none

/-- A setting inside one table for each of the keys that lead to it. -/
def nested : List String → Setting → Setting
  | [],          v => v
  | key :: keys, v => .table .environment [(key, nested keys v)]

/-- The settings that the variables of an environment give, later ones laid over earlier ones. -/
def variableSettings (env : Environment) : List (String × Setting) :=
  env.bindings.foldl (fun settings (name, value) =>
    match variableKeys? (Text.decodeUtf8Lossy name) with
    | some (key :: keys) =>
      mergeEntry settings (key, nested keys (variableValue (Text.decodeUtf8Lossy value)))
    | _                  => settings) []

end ClockStretch.Config
