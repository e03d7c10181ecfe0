import ClockStretch.Text.Unprintable

/-!
# Quoted text

A text between double quotes in which every character that would not show as itself is escaped:
the quote, the backslash, four controls by letter, and all other unprintable characters by their
code point in hexadecimal.
-/

namespace ClockStretch.Text

/-- One character inside a quoted text. -/
def quoteChar (c : Char) : List Char :=
  match c with
  | '\x00' => ['\\', '0']
  | '\t'   => ['\\', 't']
  | '\r'   => ['\\', 'r']
  | '\n'   => ['\\', 'n']
  | '"'    => ['\\', '"']
  | '\\'   => ['\\', '\\']
  | c      =>
    if isUnprintable c then ['\\', 'u', '\x7b'] ++ Nat.toDigits 16 c.toNat ++ ['\x7d'] else [c]

/-- A text with its quotes. -/
def quoted (s : String) : String :=
  String.ofList (['"'] ++ s.toList.flatMap quoteChar ++ ['"'])

end ClockStretch.Text
