import ClockStretch.Log.Level
import ClockStretch.Text.RegularExpression

/-!
# Filters of events

A filter is a list of directives, each of which sets a limit for the targets that start with its
words, and perhaps only for the events that have a certain field. For an event the narrowest
directive that speaks about it decides, and of equally narrow ones the last; an event that no
directive speaks about is not let through.
-/

namespace ClockStretch.Log

/-- A limit for the targets that start with some words, or for all targets; and for the events with
a field of some name, or for all events. -/
structure Directive where
  target : Option (List Char)
  field : Option (List Char)
  limit : Limit
deriving DecidableEq, Repr

/-- What decides which events are let through. -/
structure Filter where
  directives : List Directive
deriving DecidableEq, Repr

namespace Directive

/-- Whether a directive speaks about a target, and about events with the given fields. Without
fields the question is whether it speaks about some event. -/
def covers (d : Directive) (target : Target) (fields? : Option (List String)) : Bool :=
  (d.target.all fun words => words.isPrefixOf target.path.toList) &&
    d.field.all fun field => fields?.all fun fields => (fields.map String.toList).contains field

/-- How narrow the words of a directive are. -/
def width (d : Directive) : Nat :=
  match d.target with
  | none       => 0
  | some words => words.length + 1

/-- Whether a directive is at least as narrow as another one that speaks about the same target.
Between directives of one target a field is narrower than none, and the greater name decides. -/
def isAsNarrow (d other : Directive) : Bool :=
  other.width < d.width ||
    other.width = d.width &&
      match other.field, d.field with
      | none,     _        => true
      | some _,   none     => false
      | some old, some new => ! new.lex old fun a b => a.toNat < b.toNat

/-- The directive that decides after one more has been seen. -/
def narrower (target : Target) (fields? : Option (List String)) (best? : Option Directive)
    (d : Directive) : Option Directive :=
  if d.covers target fields? then
    match best? with
    | none      => some d
    | some best => if d.isAsNarrow best then some d else some best
  else best?

end Directive

namespace Filter

/-- Whether events of a target and a level are let through, those with the given fields, or without
fields any of them. -/
def allows (f : Filter) (target : Target) (level : Level) (fields? : Option (List String)) : Bool :=
  match f.directives.foldl (Directive.narrower target fields?) none with
  | none   => false
  | some d => d.limit.allows level

/-- Whether it is worth while to prepare events of a target and a level. -/
def enables (f : Filter) (target : Target) (level : Level) : Bool := f.allows target level none

/-- The filter that sets one limit for all targets. -/
def upTo (limit : Limit) : Filter := ⟨[⟨none, none, limit⟩]⟩

/-- The filter that sets a limit for the targets of this program. -/
def ofVerbosity (limit : Limit) : Filter :=
  ⟨Target.families.map fun family => ⟨some family.toList, none, limit⟩⟩

/-! ### Filters as texts -/

/-- A place in the text of a directive: the character that decides how the text is read, and the
one that its words are made of. The two differ behind white space at the front: it is left out
where the text is read, but the words are taken from the text as it stands. -/
structure Place where
  sign : Char
  letter : Char

namespace Place

/-- The places of a text. -/
def all (s : List Char) : List Place :=
  ((Text.trim s).zip s).map fun (sign, letter) => ⟨sign, letter⟩

/-- The words at some places. -/
def words (ps : List Place) : List Char := ps.map letter

/-- The words at the last places of a text, up to its end. -/
def lastWords (s : List Char) (ps : List Place) : List Char :=
  words ps ++ s.drop (Text.trim s).length

end Place

/-- What a directive asks of an event besides its target: nothing, a field of some name, or a span
around it, which no event has. -/
inductive Condition where
  | nothing
  | field (name : List Char)
  | span
deriving DecidableEq, Repr

/-- Whether a text can be the value of a field: a number with a sign, or a regular expression. -/
def isValue : List Char → Bool
  | '+' :: s => Text.isDecimal s
  | s        => Text.RegularExpression.isValid s

/-- The field between the braces of a condition: a name, and a value behind an equals sign. Values
belong to the fields of spans, and so do fields behind the name of a span. -/
def fieldCondition? (named : Bool) (field : List Char) : Option Condition :=
  match field.span (· != '=') with
  | (name, [])         =>
    if name.isEmpty then none else if named then some .span else some (.field name)
  | (_,    _ :: value) => if isValue (value.takeWhile (· != '=')) then some .span else none

/-- The condition behind a bracket, which has the name of a span, a field in braces, or both, and
the rest behind the closing bracket. -/
def readCondition (ps : List Place) : Option (Condition × List Place) :=
  let (name, ps) := ps.span fun p => p.sign != ']' && p.sign != '\x7b'
  match ps with
  | []      => none
  | p :: ps =>
    if p.sign = ']' then some (.span, ps)
    else
      match ps.span (·.sign != '\x7d') with
      | (field, _ :: close :: rest) => do
        let condition ← fieldCondition? (! name.isEmpty) (Place.words field)
        if close.sign = ']' then some (condition, rest) else none
      | _                           => none

/-- The limit behind the equals sign of a directive; nothing there means all levels. -/
def limit? (s : List Char) : Option Limit :=
  if s.isEmpty then some (some .trace) else Limit.ofText? s

/-- What a directive says of events: a limit for some of them, or nothing at all. -/
def directive? (target : List Char) (condition : Condition) (limit : Limit) : Option Directive :=
  let target := if target.isEmpty then none else some target
  match condition with
  | .nothing    => some ⟨target, none, limit⟩
  | .field name => some ⟨target, some name, limit⟩
  | .span       => none

/-- The characters that a directive without a condition at its front may start with. -/
def isStart (c : Char) : Bool := c == '-' || c == ':' || c == '_' || Text.isAlphanumeric c

/-- The directive behind its target, from a bracket or an equals sign on. Without a limit it lets
all levels through. -/
def readTail (s : List Char) (target : List Char) :
    List Place → Option (Option Directive)
  | []      => none
  | p :: ps =>
    if p.sign = '=' then
      (limit? (Place.lastWords s ps)).map fun limit => directive? target .nothing limit
    else do
      let (condition, ps) ← readCondition ps
      match ps with
      | []      => some (directive? target condition (some .trace))
      | p :: ps =>
        if p.sign = '=' then
          (limit? (Place.lastWords s ps)).map fun limit => directive? target condition limit
        else none

/-- One directive: a level, or a target and a condition in brackets, one of which may be missing,
with a level behind an equals sign or without. A directive that says nothing of events is read and
has no effect. -/
def readDirective (s : List Char) : Option (Option Directive) :=
  match Place.all s with
  | []      => none
  | p :: ps =>
    if p.sign = '[' then readTail s [] (p :: ps)
    else if ! isStart p.sign then none
    else
      match (p :: ps).span fun p => p.sign != '=' && p.sign != '[' with
      | (words, [])   =>
        let words := Place.lastWords s words
        match Limit.ofText? words with
        | some limit => some (directive? [] .nothing limit)
        | none       => some (directive? words .nothing (some .trace))
      | (words, rest) => readTail s (Place.words words) rest

/-- The filter of a text of directives with commas between them; with no directive it lets errors
through. -/
def ofText? (s : String) : Option Filter := do
  let pieces := (s.toList.splitOn ',').filter (! ·.isEmpty)
  let directives ← pieces.mapM readDirective
  if directives.isEmpty then return upTo (some .error)
  return ⟨directives.filterMap id⟩

end Filter

end ClockStretch.Log
