import ClockStretch.Text.Blank
import ClockStretch.Text.Letter
import ClockStretch.Text.Numeral

/-!
# Regular expressions

Which texts are regular expressions. An expression speaks about characters unless it turns to
bytes. For characters no tables are at hand: classes with a letter, word boundaries and
comparisons without case are refused, and stand for bytes alone. What would match bytes that are
no text is refused too.
-/

namespace ClockStretch.Text.RegularExpression

/-- How a part of an expression is read: with white space and comments left out, without regard to
case, and as characters or as bytes. -/
structure Modes where
  spaced : Bool
  caseless : Bool
  characters : Bool
deriving DecidableEq, Repr

namespace Modes

/-- The modes at the start of an expression. -/
def start : Modes := ⟨false, false, true⟩

/-- The modes with the one of a letter turned on or off. The other letters concern matching
alone. -/
def turn (m : Modes) (letter : Char) (on : Bool) : Modes :=
  match letter with
  | 'x' => { m with spaced := on }
  | 'i' => { m with caseless := on }
  | 'u' => { m with characters := on }
  | _   => m

/-- Whether what case makes different can be told apart as it has to be. -/
def comparable (m : Modes) : Bool := ! (m.caseless && m.characters)

end Modes

/-- The text behind white space and comments, which start at a number sign. -/
def skipSpace (inComment : Bool) : List Char → List Char
  | []     => []
  | c :: s =>
    if inComment then skipSpace (c != '\n') s
    else if isBlank c then skipSpace false s
    else if c = '#' then skipSpace true s
    else c :: s

/-- The text from the next character on that counts. -/
def Modes.next (m : Modes) (s : List Char) : List Char :=
  if m.spaced then skipSpace false s else s

/-! ### Escapes -/

/-- What stands for itself or is escaped: a character, a class of them, or a place between them. -/
inductive Item where
  | literal (c : Char)
  | set
  | place
deriving DecidableEq, Repr

/-- The number that a count of hexadecimal digits writes, and the rest. -/
def readHex (m : Modes) : Nat → Nat → List Char → Option (Nat × List Char)
  | 0,         value, s => some (value, s)
  | count + 1, value, s =>
    match m.next s with
    | []     => none
    | c :: s => do
      let d ← digitValue? 16 c
      readHex m count (value * 16 + d) s

/-- The character with a code point in a count of hexadecimal digits. -/
def readCodePoint (m : Modes) (count : Nat) (s : List Char) : Option (Item × List Char) := do
  let (n, s) ← readHex m count 0 s
  if n.isValidChar ∧ (m.characters ∨ count ≠ 2 ∨ n < 0x80) then some (.literal (Char.ofNat n), s)
  else none

/-- What stands behind a backslash. -/
def readEscape (m : Modes) : List Char → Option (Item × List Char)
  | []     => none
  | c :: s =>
    match c with
    | 'x' => readCodePoint m 2 s
    | 'u' => readCodePoint m 4 s
    | 'U' => readCodePoint m 8 s
    | 'a' => some (.literal '\x07', s)
    | 'f' => some (.literal '\x0c', s)
    | 't' => some (.literal '\t', s)
    | 'n' => some (.literal '\n', s)
    | 'r' => some (.literal '\r', s)
    | 'v' => some (.literal '\x0b', s)
    | 'A' => some (.place, s)
    | 'z' => some (.place, s)
    | c   =>
      if c ∈ ['d', 's', 'w'] then
        if m.characters then none else some (.set, s)
      else if c ∈ ['b', 'B', '<', '>'] then
        if m.characters then none else some (.place, s)
      else if c.toNat < 0x80 ∧ ! c.isAlphanum then some (.literal c, s)
      else none

/-! ### Classes in brackets -/

/-- A character or a class inside brackets. -/
def readMember (m : Modes) (s : List Char) : Option (Item × List Char) := do
  let (item, s) ←
    match s with
    | []        => none
    | '\\' :: s => readEscape m s
    | c :: s    => some (.literal c, s)
  match item with
  | .literal c => if m.characters ∨ c.toNat < 0x80 then some (.literal c, s) else none
  | .set     => some (.set, s)
  | .place     => none

/-- The names of the classes of ASCII. -/
def classNames : List String :=
  ["alnum", "alpha", "ascii", "blank", "cntrl", "digit", "graph", "lower", "print", "punct",
    "space", "upper", "word", "xdigit"]

/-- The text behind the name of a class of ASCII between colons, behind its bracket. -/
def afterClassName? : List Char → Option (List Char)
  | ':' :: s =>
    let name :=
      match s with
      | '^' :: s => s
      | s        => s
    match name.span (· != ':') with
    | (name, ':' :: ']' :: rest) => if String.ofList name ∈ classNames then some rest else none
    | _                          => none
  | _        => none

/-- The members of a class, behind its bracket: dashes and a closing bracket at the front are
members. -/
def openClass (m : Modes) (s : List Char) : Option (List Char) :=
  let members (s : List Char) : List Char :=
    match m.next s with
    | '-' :: s => s.dropWhile fun c => c == '-' || m.spaced && isBlank c
    | ']' :: s => s
    | s        => s
  match m.next s with
  | '^' :: s => if m.characters then some (members s) else none
  | s        => some (members s)

/-- The rest behind the bracket that closes a class, inside a number of others. Of two members
with a dash between them the first is not above the second. The first number bounds the members. -/
def closeClass (m : Modes) : Nat → Nat → List Char → Option (List Char)
  | 0,     _,     _ => none
  | n + 1, depth, s =>
    match m.next s with
    | []              => none
    | '[' :: s        =>
      match afterClassName? s with
      | some s => closeClass m n depth s
      | none   => do closeClass m n (depth + 1) (← openClass m s)
    | ']' :: s        =>
      match depth with
      | 0         => some s
      | depth + 1 => closeClass m n depth s
    | '&' :: '&' :: s => closeClass m n depth s
    | '-' :: '-' :: s => closeClass m n depth s
    | '~' :: '~' :: s => closeClass m n depth s
    | s               => do
      let (low, s) ← readMember m s
      match m.next s with
      | '-' :: rest =>
        match m.next rest with
        | []     => none
        | c :: s =>
          if c = ']' ∨ c = '-' then closeClass m n depth ('-' :: rest)
          else
            match low, ← readMember m (c :: s) with
            | .literal a, (.literal b, s) => if a ≤ b then closeClass m n depth s else none
            | _,          _               => none
      | s           => closeClass m n depth s

/-! ### Groups -/

/-- The modes that letters set, behind a question mark, up to the colon of a group or to the
bracket that closes the letters. None stands twice, and a dash does not stand last. -/
def readModes (m : Modes) (seen : List Char) : List Char → Option (Modes × Bool × List Char)
  | []     => none
  | c :: s =>
    if c = ':' ∨ c = ')' then
      if seen.head? = some '-' ∨ (c = ')' ∧ seen.isEmpty) then none else some (m, c = ':', s)
    else if c ∈ seen ∨ c ∉ ['-', 'i', 'm', 's', 'U', 'u', 'R', 'x'] then none
    else readModes (m.turn c ('-' ∉ seen)) (c :: seen) s

/-- The name of a group, which ends in an angle bracket. -/
def readName (s : List Char) : Option (List Char × List Char) :=
  match s.span (· != '>') with
  | (c :: cs, '>' :: rest) =>
    if (c == '_' || isAlphabetic c) &&
        cs.all fun c => c ∈ ['_', '.', '[', ']'] || isAlphanumeric c then
      some (c :: cs, rest)
    else none
  | _                      => none

/-- What an opening bracket starts: a plain group, a group with a name, or modes for a group or for
the rest of the present one. -/
inductive Opening where
  | plain
  | named (name : List Char)
  | modes (m : Modes) (group : Bool)

/-- The opening of a group behind its bracket. Looking ahead or back is not supported. -/
def readOpening (m : Modes) (s : List Char) : Option (Opening × List Char) :=
  match m.next s with
  | '?' :: 'P' :: '<' :: s => (readName s).map fun (name, s) => (.named name, s)
  | '?' :: '<' :: s        => (readName s).map fun (name, s) => (.named name, s)
  | '?' :: s               => (readModes m [] s).map fun (m, group, s) => (.modes m group, s)
  | s                      => some (.plain, s)

/-! ### Expressions -/

/-- Whether a text ends an expression, inside groups with the modes around each of them, behind
groups with the given names. A repetition needs something before it. The number bounds the
parts. -/
def accepts : Nat → Modes → List Modes → List (List Char) → Bool → List Char → Bool
  | 0,     _, _,      _,     _,          _ => false
  | n + 1, m, around, names, repeatable, s =>
    match m.next s with
    | []        => around.isEmpty
    | '(' :: s  =>
      match readOpening m s with
      | none                       => false
      | some (.plain, s)           => accepts n m (m :: around) names false s
      | some (.named name, s)      =>
        name ∉ names && accepts n m (m :: around) (name :: names) false s
      | some (.modes inner group, s) =>
        if group then accepts n inner (m :: around) names false s
        else accepts n inner around names false s
    | ')' :: s  =>
      match around with
      | []          => false
      | m :: around => accepts n m around names true s
    | '|' :: s  => accepts n m around names false s
    | '[' :: s  =>
      match (openClass m s).bind (closeClass m (s.length + 1) 0) with
      | some s => m.comparable && accepts n m around names true s
      | none   => false
    | '\x7b' :: _ => false
    | '.' :: s  => m.characters && accepts n m around names true s
    | '\\' :: s =>
      match readEscape m s with
      | some (.place, s) => accepts n m around names true s
      | some (_, s)      => m.comparable && accepts n m around names true s
      | none             => false
    | c :: s    =>
      if c ∈ ['?', '*', '+'] then
        repeatable && accepts n m around names true (if s.head? = some '?' then s.drop 1 else s)
      else (c ∈ ['^', '$'] || m.comparable) && accepts n m around names true s

/-- Whether a text is a regular expression. A count of repetitions in braces is not supported. -/
def isValid (s : List Char) : Bool := accepts (s.length + 1) .start [] [] false s

end ClockStretch.Text.RegularExpression
