import ClockStretch.Text.Numeral

/-!
# Levels and targets of events

An event has a level, which says how much it matters, and a target, which says where it comes
from.
-/

namespace ClockStretch.Log

/-- How much an event matters. -/
inductive Level where
  | error
  | warn
  | info
  | debug
  | trace
deriving DecidableEq, Repr

namespace Level

/-- The levels from the one that matters most. -/
def all : List Level := [.error, .warn, .info, .debug, .trace]

/-- The place of a level, counted from one. -/
def rank : Level → Nat
  | .error => 1
  | .warn  => 2
  | .info  => 3
  | .debug => 4
  | .trace => 5

/-- The name of a level in capitals. -/
def name : Level → String
  | .error => "ERROR"
  | .warn  => "WARN"
  | .info  => "INFO"
  | .debug => "DEBUG"
  | .trace => "TRACE"

end Level

/-- The most verbose level that is let through; nothing is let through where there is none. -/
abbrev Limit := Option Level

/-- Whether a limit lets a level through. -/
def Limit.allows (limit : Limit) (level : Level) : Bool :=
  match limit with
  | none     => false
  | some max => level.rank ≤ max.rank

/-- The limit with a number, from 0 for nothing to 5 for everything. -/
def Limit.ofNumber? : Nat → Option Limit
  | 0     => some none
  | n + 1 => Level.all[n]?.map some

/-- The limit with a name in any case. -/
def Limit.ofName? (text : List Char) : Option Limit :=
  let lower := text.map Char.toLower
  if lower = ['o', 'f', 'f'] then some none
  else (Level.all.find? fun level => lower = level.name.toList.map Char.toLower).map some

/-- The limit that a text gives by name or by number. -/
def Limit.ofText? (text : List Char) : Option Limit :=
  match Text.readUnsigned 10 UInt64.size text with
  | .ok n    => ofNumber? n
  | .error _ => ofName? text

/-- Where an event comes from. -/
inductive Target where
  | run
  | controller
  | window
deriving DecidableEq, Repr

/-- The path of a target. -/
def Target.path : Target → String
  | .run        => "i2ctout::run"
  | .controller => "i2ctout::controller"
  | .window     => "i2ctout_linux::window"

/-- The targets whose level follows the verbosity of the command line. -/
def Target.families : List String := ["i2ctout", "i2ctout_linux"]

end ClockStretch.Log
