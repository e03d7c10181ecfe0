/-!
# Faults of a JSON text

What can be wrong with a text that should be JSON, and where. Lines count from one; a column is
the number of bytes read in its line.
-/

namespace ClockStretch.Json

/-- What is wrong with a text that should be JSON. -/
inductive Problem where
  | endInList
  | endInObject
  | endInString
  | endInValue
  | colonExpected
  | listCommaOrEndExpected
  | objectCommaOrEndExpected
  | wordExpected
  | valueExpected
  | keyExpected
  | invalidEscape
  | invalidNumber
  | numberOutOfRange
  | controlCharacter
  | loneSurrogate
  | unfinishedEscape
  | trailingComma
  | trailingCharacters
  | nestedTooDeep
deriving DecidableEq, Repr

/-- The wording of a problem. -/
def Problem.message : Problem → String
  | .endInList                => "EOF while parsing a list"
  | .endInObject              => "EOF while parsing an object"
  | .endInString              => "EOF while parsing a string"
  | .endInValue               => "EOF while parsing a value"
  | .colonExpected            => "expected `:`"
  | .listCommaOrEndExpected   => "expected `,` or `]`"
  | .objectCommaOrEndExpected => "expected `,` or `\x7d`"
  | .wordExpected             => "expected ident"
  | .valueExpected            => "expected value"
  | .keyExpected              => "key must be a string"
  | .invalidEscape            => "invalid escape"
  | .invalidNumber            => "invalid number"
  | .numberOutOfRange         => "number out of range"
  | .controlCharacter         => "control character (\\u0000-\\u001F) found while parsing a string"
  | .loneSurrogate            => "lone leading surrogate in hex escape"
  | .unfinishedEscape         => "unexpected end of hex escape"
  | .trailingComma            => "trailing comma"
  | .trailingCharacters       => "trailing characters"
  | .nestedTooDeep            => "recursion limit exceeded"

/-- A problem with its place in the text. -/
structure Fault where
  problem : Problem
  line : Nat
  column : Nat
deriving DecidableEq, Repr

/-- The wording of a fault. -/
def Fault.message (f : Fault) : String :=
  s!"{f.problem.message} at line {f.line} column {f.column}"

end ClockStretch.Json
