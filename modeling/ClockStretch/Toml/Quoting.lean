import ClockStretch.Text.Numeral

/-!
# Texts and keys of TOML

Readers for white space, comments, the four kinds of strings, and keys. A reader takes a part off
the front of a text and leaves the rest, or refuses it. Of the control characters only the tab is
allowed, and line ends where lines may end.
-/

namespace ClockStretch.Toml

/-- A reader of a part at the front of a text. -/
abbrev Reader (α : Type) := List Char → Option (α × List Char)

/-- The characters that comments may hold. -/
def isPlain (c : Char) : Bool := c == '\t' || (0x20 ≤ c.toNat && c.toNat != 0x7f)

/-- White space inside a line. -/
def isBlank (c : Char) : Bool := c == ' ' || c == '\t'

/-- The text behind white space inside a line. -/
def skipBlanks (s : List Char) : List Char := s.dropWhile isBlank

/-- The text behind one line end. -/
def newline? : List Char → Option (List Char)
  | '\n' :: s         => some s
  | '\r' :: '\n' :: s => some s
  | _                 => none

/-- The text behind a comment, if there is one. -/
def skipComment : List Char → List Char
  | '#' :: s => s.dropWhile isPlain
  | s        => s

/-- The text behind white space, comments and line ends; a comment ends in a line end. The number
bounds the lines. -/
def skipLines : Nat → List Char → Option (List Char)
  | 0,     _ => none
  | n + 1, s =>
    match skipBlanks s with
    | '#' :: s => do skipLines n (← newline? (s.dropWhile isPlain))
    | s        =>
      match newline? s with
      | some s => skipLines n s
      | none   => some s

/-- The text behind the end of a line, with white space and a comment before it. -/
def skipLineEnd (s : List Char) : Option (List Char) :=
  match skipComment (skipBlanks s) with
  | [] => some []
  | s  => newline? s

/-! ### Strings -/

/-- The character with a code point in hexadecimal of a fixed count of digits. -/
def readCodePoint (count : Nat) : Reader Char := fun s => do
  let digits := s.take count
  let values ← digits.mapM (Text.digitValue? 16)
  let n := values.foldl (fun n d => n * 16 + d) 0
  if values.length = count ∧ n.isValidChar then some (Char.ofNat n, s.drop count) else none

/-- The character of an escape, behind its backslash. -/
def readEscape : Reader Char
  | 'b' :: s  => some ('\x08', s)
  | 'f' :: s  => some ('\x0c', s)
  | 'n' :: s  => some ('\n', s)
  | 'r' :: s  => some ('\r', s)
  | 't' :: s  => some ('\t', s)
  | '"' :: s  => some ('"', s)
  | '\\' :: s => some ('\\', s)
  | 'u' :: s  => readCodePoint 4 s
  | 'U' :: s  => readCodePoint 8 s
  | _         => none

/-- A string with escapes, behind its opening quote. The number bounds the characters. -/
def readBasic : Nat → Reader (List Char)
  | 0,     _         => none
  | _ + 1, []        => none
  | _ + 1, '"' :: s  => some ([], s)
  | n + 1, '\\' :: s => do
    let (c, s) ← readEscape s
    let (cs, s) ← readBasic n s
    some (c :: cs, s)
  | n + 1, c :: s    =>
    if isPlain c then do
      let (cs, s) ← readBasic n s
      some (c :: cs, s)
    else none

/-- A string as it stands, behind its opening apostrophe. -/
def readLiteral (s : List Char) : Option (List Char × List Char) :=
  match s.span fun c => isPlain c && c != '\'' with
  | (cs, '\'' :: s) => some (cs, s)
  | _               => none

/-- The quotes that close a string of several lines, behind three of them: up to two more belong to
the string. -/
def closingQuotes (quote : Char) : List Char → List Char × List Char
  | a :: b :: s =>
    if a = quote then if b = quote then ([quote, quote], s) else ([quote], b :: s)
    else ([], a :: b :: s)
  | [a]         => if a = quote then ([quote], []) else ([], [a])
  | []          => ([], [])

/-- The text behind white space and line ends. A carriage return counts before a line feed only. -/
def skipBlankLines : List Char → List Char
  | []     => []
  | c :: s =>
    if isBlank c ∨ c = '\n' ∨ (c = '\r' ∧ s.head? = some '\n') then skipBlankLines s else c :: s

/-- The text behind a line end that follows a backslash, white space and all further line ends. -/
def escapedNewline? (s : List Char) : Option (List Char) :=
  (newline? (skipBlanks s)).map skipBlankLines

/-- A string with escapes over several lines, behind its opening quotes. -/
def readMultilineBasic : Nat → Reader (List Char)
  | 0,     _                       => none
  | _ + 1, []                      => none
  | _ + 1, '"' :: '"' :: '"' :: s  => some (closingQuotes '"' s)
  | n + 1, '\\' :: s               =>
    match escapedNewline? s with
    | some s => readMultilineBasic n s
    | none   => do
      let (c, s) ← readEscape s
      let (cs, s) ← readMultilineBasic n s
      some (c :: cs, s)
  | n + 1, c :: s                  =>
    match newline? (c :: s) with
    | some s => do
      let (cs, s) ← readMultilineBasic n s
      some ('\n' :: cs, s)
    | none   =>
      if isPlain c then do
        let (cs, s) ← readMultilineBasic n s
        some (c :: cs, s)
      else none

/-- A string as it stands over several lines, behind its opening apostrophes. -/
def readMultilineLiteral : Nat → Reader (List Char)
  | 0,     _                          => none
  | _ + 1, []                         => none
  | _ + 1, '\'' :: '\'' :: '\'' :: s  => some (closingQuotes '\'' s)
  | n + 1, c :: s                     =>
    match newline? (c :: s) with
    | some s => do
      let (cs, s) ← readMultilineLiteral n s
      some ('\n' :: cs, s)
    | none   =>
      if isPlain c then do
        let (cs, s) ← readMultilineLiteral n s
        some (c :: cs, s)
      else none

/-- The text behind a line end at its very start. -/
def skipFirstNewline (s : List Char) : List Char := (newline? s).getD s

/-- A string of any of the four kinds. -/
def readString (s : List Char) : Option (String × List Char) := do
  let (cs, s) ←
    match s with
    | '"' :: '"' :: '"' :: s    => readMultilineBasic (s.length + 1) (skipFirstNewline s)
    | '"' :: s                  => readBasic (s.length + 1) s
    | '\'' :: '\'' :: '\'' :: s => readMultilineLiteral (s.length + 1) (skipFirstNewline s)
    | '\'' :: s                 => readLiteral s
    | _                         => none
  some (String.ofList cs, s)

/-! ### Keys -/

/-- The characters of a key without quotes. -/
def isBare (c : Char) : Bool := c.isAlphanum || c == '_' || c == '-'

/-- One part of a key. -/
def readSimpleKey (s : List Char) : Option (String × List Char) := do
  let (cs, s) ←
    match s with
    | '"' :: s  => readBasic (s.length + 1) s
    | '\'' :: s => readLiteral s
    | s         =>
      match s.span isBare with
      | ([], _) => none
      | (cs, s) => some (cs, s)
  some (String.ofList cs, s)

/-- The parts of a key with dots and white space between them. The number bounds the parts. -/
def readKeyParts : Nat → Reader (List String)
  | 0,     _ => none
  | n + 1, s => do
    let (key, s) ← readSimpleKey (skipBlanks s)
    match skipBlanks s with
    | '.' :: s => do
      let (keys, s) ← readKeyParts n s
      some (key :: keys, s)
    | s        => some ([key], s)

/-- The count of levels that keys and values stay below. -/
def nestingLimit : Nat := 80

/-- A key: the tables that it leads through, and its last part. -/
def readKey (s : List Char) : Option ((List String × String) × List Char) := do
  let (keys, s) ← readKeyParts (nestingLimit - 1) s
  let last ← keys.getLast?
  some ((keys.dropLast, last), s)

end ClockStretch.Toml
