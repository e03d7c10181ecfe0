import ClockStretch.Json.Reader
import ClockStretch.Text.Shortest

/-!
# JSON values

The values of JSON, their text without spaces, and the reader that gives back a value. The entries
of an object keep their order.
-/

namespace ClockStretch.Json

/-- A value of JSON. -/
inductive Value where
  | null
  | bool (b : Bool)
  | number (n : Number)
  | string (s : String)
  | array (items : List Value)
  | object (entries : List (String × Value))

/-! ### Writing -/

/-- One character inside a string. -/
def writeChar (c : Char) : List Char :=
  match c with
  | '"'    => ['\\', '"']
  | '\\'   => ['\\', '\\']
  | '\x08' => ['\\', 'b']
  | '\x0c' => ['\\', 'f']
  | '\n'   => ['\\', 'n']
  | '\r'   => ['\\', 'r']
  | '\t'   => ['\\', 't']
  | c      =>
    if c.toNat < 0x20 then
      ['\\', 'u', '0', '0', Nat.digitChar (c.toNat / 16), Nat.digitChar (c.toNat % 16)]
    else [c]

/-- A string with its quotes. -/
def writeString (s : String) : List Char :=
  '"' :: s.toList.flatMap writeChar ++ ['"']

/-- A number. -/
def writeNumber : Number → List Char
  | .unsigned n => Nat.toDigits 10 n
  | .signed i   => (toString i).toList
  | .float x    => x.scientific.toList

mutual

/-- A value. -/
def Value.write : Value → List Char
  | .null        => ['n', 'u', 'l', 'l']
  | .bool true   => ['t', 'r', 'u', 'e']
  | .bool false  => ['f', 'a', 'l', 's', 'e']
  | .number n    => writeNumber n
  | .string s    => writeString s
  | .array items => '[' :: writeItems items ++ [']']
  | .object es   => '\x7b' :: writeEntries es ++ ['\x7d']

/-- Items with commas between them. -/
def writeItems : List Value → List Char
  | []           => []
  | [v]          => v.write
  | v :: w :: vs => v.write ++ ',' :: writeItems (w :: vs)

/-- Entries with commas between them. -/
def writeEntries : List (String × Value) → List Char
  | []           => []
  | [e]          => writeEntry e
  | e :: f :: es => writeEntry e ++ ',' :: writeEntries (f :: es)

/-- A key and its value. -/
def writeEntry : String × Value → List Char
  | (key, v) => writeString key ++ ':' :: v.write

end

/-- The text of a value, without spaces. -/
def Value.render (v : Value) : String := String.ofList v.write

/-! ### Reading -/

/-- How deep a text that is read as a value may nest. -/
def deepest : Nat := 127

/-- What follows an item of a list: another one, behind a comma, or the end. -/
def readItemEnd : Reader Bool := fun s =>
  match skipBlanks s with
  | []        => stopBefore .endInList []
  | ']' :: s  => .ok (false, s)
  | ',' :: s  =>
    match skipBlanks s with
    | []       => stopBefore .endInValue []
    | ']' :: s => stopBefore .trailingComma (']' :: s)
    | s        => .ok (true, s)
  | s         => stopBefore .listCommaOrEndExpected s

/-- The items of a list from one of them on. The number bounds the items. -/
def readItems (item : Reader α) : Nat → Reader (List α)
  | 0,     s => stopAt .endInList s
  | n + 1, s => do
    let (v, s) ← item s
    let (more, s) ← readItemEnd s
    if more then
      let (vs, s) ← readItems item n s
      .ok (v :: vs, s)
    else .ok ([v], s)

/-- What follows the brace of an object or an entry of it, up to the quote of a key. -/
def readEntryEnd (first : Bool) : Reader Bool := fun s =>
  match skipBlanks s with
  | []          => stopBefore .endInObject []
  | '\x7d' :: s => .ok (false, s)
  | c :: s      =>
    if first then
      if c = '"' then .ok (true, s) else stopBefore .keyExpected (c :: s)
    else if c = ',' then
      match skipBlanks s with
      | []          => stopBefore .endInValue []
      | '"' :: s    => .ok (true, s)
      | '\x7d' :: s => stopBefore .trailingComma ('\x7d' :: s)
      | s           => stopBefore .keyExpected s
    else stopBefore .objectCommaOrEndExpected (c :: s)

/-- The colon between a key and its value. -/
def readColon : Reader Unit := fun s =>
  match skipBlanks s with
  | ':' :: s => .ok ((), s)
  | []       => stopBefore .endInObject []
  | s        => stopBefore .colonExpected s

/-- The entries of an object from the quote of a key on. The number bounds the entries. -/
def readEntries (item : Reader α) : Nat → Reader (List (String × α))
  | 0,     s => stopAt .endInObject s
  | n + 1, s => do
    let (key, s) ← readString s
    let ((), s) ← readColon s
    let (v, s) ← item s
    let (more, s) ← readEntryEnd false s
    if more then
      let (es, s) ← readEntries item n s
      .ok ((key, v) :: es, s)
    else .ok ([(key, v)], s)

/-- A value that nests at most as deep as the number says. -/
def readValue : Nat → Reader Value
  | depth, s =>
    match skipBlanks s with
    | []         => stopBefore .endInValue []
    | 'n' :: s   => return (.null, ← readWord ['u', 'l', 'l'] s)
    | 't' :: s   => return (.bool true, ← readWord ['r', 'u', 'e'] s)
    | 'f' :: s   => return (.bool false, ← readWord ['a', 'l', 's', 'e'] s)
    | '"' :: s   => do
      let (t, s) ← readString s
      return (.string t, s)
    | '-' :: s   => do
      let (n, s) ← readNumber true s
      return (.number n, s)
    | '[' :: s   =>
      match depth with
      | 0         => stopBefore .nestedTooDeep ('[' :: s)
      | depth + 1 =>
        match skipBlanks s with
        | []       => stopBefore .endInList []
        | ']' :: s => .ok (.array [], s)
        | s        => do
          let (items, s) ← readItems (readValue depth) s.length s
          return (.array items, s)
    | '\x7b' :: s =>
      match depth with
      | 0         => stopBefore .nestedTooDeep ('\x7b' :: s)
      | depth + 1 => do
        let (more, s) ← readEntryEnd true s
        if more then
          let (es, s) ← readEntries (readValue depth) (s.length + 1) s
          return (.object es, s)
        else return (.object [], s)
    | c :: s     =>
      if c.isDigit then do
        let (n, s) ← readNumber false (c :: s)
        return (.number n, s)
      else stopBefore .valueExpected (c :: s)

/-- The value that a whole text writes, or its first fault. -/
def read (text : String) : Except Fault Value :=
  match readValue deepest text.toList with
  | .error stop => .error (stop.fault text.toList)
  | .ok (v, s)  =>
    match skipBlanks s with
    | [] => .ok v
    | s  => .error (Stop.fault ⟨.trailingCharacters, s, 1⟩ text.toList)

end ClockStretch.Json
