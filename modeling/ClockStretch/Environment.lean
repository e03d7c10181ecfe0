import ClockStretch.File.Path
import ClockStretch.Table

/-!
# Environments

The variables of a process, in the order in which they were first set, and the home directory of
the account that it runs under. Names and values are sequences of bytes.
-/

namespace ClockStretch

/-- The variables of a process and the home directory of its account. -/
structure Environment where
  bindings : List (List UInt8 × List UInt8)
  accountHome? : Option Path
deriving DecidableEq, Repr

namespace Environment

/-- The environment with a variable set. -/
def set (env : Environment) (name value : List UInt8) : Environment :=
  { env with bindings := Table.put name value env.bindings }

/-- The value of a variable. -/
def get? (env : Environment) (name : String) : Option (List UInt8) :=
  env.bindings.lookup (Text.encodeUtf8 name)

/-- The value of a variable, unless it is empty. -/
def nonempty? (env : Environment) (name : String) : Option (List UInt8) :=
  (env.get? name).filter (! ·.isEmpty)

/-- The value of a variable as a text, unless it is not UTF-8. -/
def text? (env : Environment) (name : String) : Option String :=
  (env.get? name).bind Text.decodeUtf8?

end Environment

end ClockStretch
