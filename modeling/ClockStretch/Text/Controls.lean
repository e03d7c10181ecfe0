/-!
# Terminal controls

A text as it is shown where nothing may control a terminal: control sequences, control strings and
single control characters are left out, white space stays.
-/

namespace ClockStretch.Text

/-- Where a terminal stands: in plain text; behind an escape character; behind the intermediate
characters of an escape sequence; in a control sequence; in the string of a command, which a bell
ends; at the start, in the parameters or in the intermediate characters of a device control; or in
another control string. -/
inductive Terminal where
  | plain
  | escape
  | intermediate
  | sequence
  | command
  | deviceStart
  | deviceParameters
  | deviceIntermediate
  | string
deriving DecidableEq, Repr

/-- Where a text is shown: by itself, where white space ends a sequence that it stands in, or in a
stream, where such a sequence goes on at the next control character. -/
inductive Medium where
  | text
  | stream
deriving DecidableEq, Repr

namespace Terminal

/-- Control characters of ASCII. -/
def isControl (c : Char) : Bool := c.toNat < 0x20 || c.toNat == 0x7f

/-- Control characters that are white space. -/
def isSpacing (c : Char) : Bool := c == '\t' || c == '\n' || c == '\x0c' || c == '\r'

/-- Whether the encoding of a character has the byte that ends a control string. -/
def endsString (c : Char) : Bool := (String.utf8EncodeChar c).contains 0x9c

/-- The state after a character that escapes from text. -/
def escaped (c : Char) : Terminal :=
  if c == '[' then .sequence
  else if c == ']' then .command
  else if c == 'P' then .deviceStart
  else if c == 'X' || c == '^' || c == '_' then .string
  else if 0x20 ≤ c.toNat && c.toNat < 0x30 then .intermediate
  else .plain

/-- The state of a device control after a character before its string. -/
def inDevice (t : Terminal) (c : Char) : Terminal :=
  if isControl c || 0x80 ≤ c.toNat then t
  else if c.toNat < 0x30 then .deviceIntermediate
  else if t = .deviceStart then if c.toNat < 0x40 then .deviceParameters else .string
  else if t = .deviceParameters ∧ c.toNat < 0x3c then t
  else .string

/-- Whether a character is shown, and the state after it. Characters outside ASCII are shown in
plain text, and elsewhere only end control strings. -/
def step (t : Terminal) (c : Char) : Bool × Terminal :=
  if c == '\x1b' then (false, .escape)
  else if c == '\x18' || c == '\x1a' then (false, .plain)
  else match t with
    | .plain   => (! isControl c || isSpacing c, t)
    | .command => (false, if c == '\x07' then .plain else t)
    | .string  => (false, if endsString c then .plain else t)
    | .deviceStart | .deviceParameters | .deviceIntermediate => (false, t.inDevice c)
    | .escape | .intermediate | .sequence =>
      if isControl c then (isSpacing c, t)
      else if 0x80 ≤ c.toNat then (false, t)
      else match t with
        | .escape       => (false, escaped c)
        | .intermediate => (false, if c.toNat < 0x30 then t else .plain)
        | _             => (false, if c.toNat < 0x40 then t else .plain)

/-- The state behind a character that was shown. -/
def resume (medium : Medium) (t : Terminal) (c : Char) : Terminal :=
  match medium with
  | .text   => .plain
  | .stream => if c.toNat < 0x80 then t else .plain

/-- The state at a character that ends what was shown. -/
def interrupt (t : Terminal) (c : Char) : Terminal :=
  if c == '\x1b' || c == '\x18' || c == '\x1a' then (t.step c).2 else t

/-- The characters that are shown, from a state on. While characters are shown, all that plain text
shows is. -/
def shown (medium : Medium) : Bool → Terminal → List Char → List Char
  | _,       _, []     => []
  | showing, t, c :: s =>
    let t := if showing && ! (Terminal.plain.step c).1 then t.interrupt c else t
    let (keep, next) := if showing && (Terminal.plain.step c).1 then (true, t) else t.step c
    if keep then c :: shown medium true (next.resume medium c) s else shown medium false next s

end Terminal

/-- The text that a terminal shows, without its controls. -/
def withoutControls (medium : Medium) (s : String) : String :=
  String.ofList (Terminal.shown medium false .plain s.toList)

end ClockStretch.Text
