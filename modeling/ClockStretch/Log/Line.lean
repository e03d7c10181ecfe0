import ClockStretch.Log.Event

/-!
# Log lines

An event as one line: the level, the target where it is wanted, the message and the fields. In
colour the level has a colour of its own, the target and the equals signs are dim, and the names
of fields are slanted.
-/

namespace ClockStretch.Log

/-- How lines are laid out. -/
structure Layout where
  colour : Bool
  showTarget : Bool
deriving DecidableEq, Repr

/-- The number of the colour of a level. -/
def Level.colour : Level → Nat
  | .error => 31
  | .warn  => 33
  | .info  => 32
  | .debug => 34
  | .trace => 35

namespace Layout

/-- A text in a style, which is given by its number, where the layout has colour. -/
def paint (layout : Layout) (style : Nat) (s : String) : String :=
  if layout.colour then s!"\x1b[{style}m{s}\x1b[0m" else s

/-- The style of dim text. -/
def dim : Nat := 2

/-- The style of slanted text. -/
def slanted : Nat := 3

/-- The level in five columns. -/
def level (layout : Layout) (l : Level) : String :=
  layout.paint l.colour (String.ofList (List.replicate (5 - l.name.length) ' ') ++ l.name)

/-- The value of a field in a line. -/
def fieldValue : FieldValue → String
  | .number n => toString n
  | .text s   => Text.quoted s
  | .shown s  => s

/-- The line of an event, with its end. -/
def line (layout : Layout) (e : Event) : String :=
  let target :=
    if layout.showTarget then layout.paint dim e.target.path ++ layout.paint dim ":" ++ " " else ""
  let fields := e.fields.map fun (name, value) =>
    " " ++ layout.paint slanted name ++ layout.paint dim "=" ++ fieldValue value
  layout.level e.level ++ " " ++ target ++ e.message ++ String.join fields ++ "\n"

end Layout

end ClockStretch.Log
