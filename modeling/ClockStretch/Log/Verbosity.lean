import ClockStretch.Log.Level

/-!
# Verbosity

How much a user wants to be told, and the most verbose level that is let through for it.
-/

namespace ClockStretch.Log

/-- How much a user wants to be told. -/
inductive Verbosity where
  | quiet
  | normal
  | verbose
  | trace
deriving DecidableEq, Repr

namespace Verbosity

/-- The verbosity of a count of requests for more, unless quiet is asked for, which wins. -/
def ofRequests (quiet : Bool) (count : Nat) : Verbosity :=
  if quiet then .quiet
  else match count with
    | 0 => .normal
    | 1 => .verbose
    | _ => .trace

/-- The most verbose level that is let through. -/
def level : Verbosity → Level
  | .quiet   => .error
  | .normal  => .warn
  | .verbose => .debug
  | .trace   => .trace

end Verbosity

end ClockStretch.Log
