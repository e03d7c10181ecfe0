import ClockStretch.Toml.Number
import ClockStretch.Config.Setting

/-!
# Values and tables of TOML

A document under construction is a tree of items. A table knows how it came to be, which decides
whether it may be added to: a header may open a table only once, a dotted key may add only to what
dotted keys have made, and values, inline tables among them, are closed.
-/

namespace ClockStretch.Toml

open Config (Origin Setting)

/-- How a table came to be: by its own header, by a header of a table inside it, or by a dotted
key. -/
inductive Kind where
  | opened
  | implied
  | dotted
deriving DecidableEq, Repr

/-- A part of a document. The elements of an array of tables are kept with the newest first. -/
inductive Item where
  | value (v : Setting)
  | table (kind : Kind) (entries : List (String × Item))
  | tables (elements : List (List (String × Item)))

/-- The items of a table by their keys. -/
abbrev Entries := List (String × Item)

namespace Entries

/-- A change of the table at the end of a path, through the newest element of arrays of tables.
Missing tables on the way are made, `dotted` ones for a dotted key. -/
def within (dotted : Bool) (change : Kind → Entries → Option Entries) :
    List String → Kind → Entries → Option Entries
  | [],          kind, es => change kind es
  | key :: path, _,    es =>
    match es.lookup key with
    | none                          => do
      let made := if dotted then .dotted else .implied
      let inner ← within dotted change path made []
      some (Table.put key (.table made inner) es)
    | some (.value _)               => none
    | some (.tables [])             => none
    | some (.tables (last :: rest)) => do
      let last ← within dotted change path .opened last
      some (Table.put key (.tables (last :: rest)) es)
    | some (.table kind inner)      =>
      if dotted ∧ kind = .opened then none
      else do
        let inner ← within dotted change path kind inner
        some (Table.put key (.table kind inner) es)

/-- The table with an item assigned to a key, which must be new. -/
def assign (path : List String) (key : String) (item : Item) (es : Entries) : Option Entries :=
  within true
    (fun kind es =>
      if (kind = .dotted) = path.isEmpty then none
      else if (es.lookup key).isSome then none
      else some (Table.put key item es))
    path .opened es

/-- An assignment of a value to a key. -/
structure Assignment where
  path : List String
  key : String
  value : Setting

/-- The table with values assigned in order. -/
def assignAll (es : Entries) (assignments : List Assignment) : Option Entries :=
  assignments.foldlM (fun es a => assign a.path a.key (.value a.value) es) es

end Entries

mutual

/-- An item as a tree of settings. -/
def Item.toSetting (origin : Origin) : Item → Setting
  | .value v         => v
  | .table _ entries => .table origin (settingEntries origin entries)
  | .tables elements => .array origin (settingElements origin elements)

/-- The entries of a table as settings. -/
def settingEntries (origin : Origin) : List (String × Item) → List (String × Setting)
  | []           => []
  | entry :: es  => settingEntry origin entry :: settingEntries origin es

/-- An entry of a table as a setting. -/
def settingEntry (origin : Origin) : String × Item → String × Setting
  | (key, item) => (key, item.toSetting origin)

/-- The elements of an array of tables as settings, the oldest first. -/
def settingElements (origin : Origin) : List (List (String × Item)) → List Setting
  | []              => []
  | element :: rest =>
    settingElements origin rest ++ [.table origin (settingEntries origin element)]

end

/-! ### Reading values -/

/-- Items of an array, behind its bracket or a comma. The number bounds the items. -/
def readArrayItems (item : Reader α) : Nat → Reader (List α)
  | 0,     _ => none
  | n + 1, s => do
    match ← skipLines (s.length + 1) s with
    | ']' :: s => some ([], s)
    | s        => do
      let (v, s) ← item s
      match ← skipLines (s.length + 1) s with
      | ']' :: s => some ([v], s)
      | ',' :: s => do
        let (vs, s) ← readArrayItems item n s
        some (v :: vs, s)
      | _        => none

/-- A key and, behind the equals sign, its value. -/
def readAssignment (value : Reader Setting) : Reader Entries.Assignment := fun s => do
  let ((path, key), s) ← readKey s
  let ((), s) ← readChar '=' s
  let (v, s) ← value (skipBlanks s)
  some (⟨path, key, v⟩, s)

/-- The assignments of an inline table, behind its brace or a comma. -/
def readInlineAssignments (value : Reader Setting) : Nat → Reader (List Entries.Assignment)
  | 0,     _ => none
  | n + 1, s => do
    let (a, s) ← readAssignment value s
    match skipBlanks s with
    | '\x7d' :: s => some ([a], s)
    | ',' :: s    => do
      let (as, s) ← readInlineAssignments value n s
      some (a :: as, s)
    | _           => none

/-- A number or a moment. -/
def readNumeric (origin : Origin) (s : List Char) : Option (Setting × List Char) :=
  (readMoment s).map (fun ((), s) => (Setting.table origin [], s)) <|>
    (readFloat s).map (fun (x, s) => (.scalar origin (.float x), s)) <|>
    (readInteger s).map (fun (i, s) => (.scalar origin (.signed i), s))

/-- A value that nests less deep than the number says. A moment is a table without entries. -/
def readValue (origin : Origin) : Nat → Reader Setting
  | depth, s =>
    match s with
    | []           => none
    | '[' :: s     =>
      match depth with
      | 0         => none
      | depth + 1 => do
        let (items, s) ← readArrayItems (readValue origin depth) (s.length + 1) s
        some (.array origin items, s)
    | '\x7b' :: s  =>
      match depth with
      | 0         => none
      | depth + 1 =>
        match skipBlanks s with
        | '\x7d' :: s => some (.table origin [], s)
        | s           => do
          let (as, s) ← readInlineAssignments (readValue origin depth) (s.length + 1) s
          let es ← Entries.assignAll [] as
          some (.table origin (settingEntries origin es), s)
    | c :: rest    =>
      if c = '"' ∨ c = '\'' then
        (readString (c :: rest)).map fun (t, s) => (.scalar origin (.string t), s)
      else if c = 't' then
        (['t', 'r', 'u', 'e'].isPrefixOf? (c :: rest)).map fun s =>
          (.scalar origin (.bool true), s)
      else if c = 'f' then
        (['f', 'a', 'l', 's', 'e'].isPrefixOf? (c :: rest)).map fun s =>
          (.scalar origin (.bool false), s)
      else if c = 'i' ∨ c = 'n' then
        (readSpecialFloat false (c :: rest)).map fun (x, s) => (.scalar origin (.float x), s)
      else readNumeric origin (c :: rest)

end ClockStretch.Toml
