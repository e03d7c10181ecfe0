import ClockStretch.Config.Setting

/-!
# Wrapped values

A table inside a file may stand for a value: under one reserved key it holds the value, and its
other entries are left out. Under the other reserved key it would hold a mark of the source of the
value, which a file cannot give. At the top of a file the two keys have no meaning.
-/

namespace ClockStretch.Config

/-- The key under which a table holds the value that it stands for. -/
def wrappedKey : String := "___figment_value_value"

/-- The key under which a table would hold the mark of a source. -/
def markKey : String := "___figment_value_id"

mutual

/-- A tree with every table that stands for a value replaced by this value, unless a table has a
mark. -/
def Setting.unwrap? : Setting → Option Setting
  | .scalar o x       => some (.scalar o x)
  | .array o items    => (unwrapItems? items).map (.array o)
  | .table o entries  => do
    let entries ← unwrapEntries? entries
    if (entries.lookup markKey).isSome then none
    else some ((entries.lookup wrappedKey).getD (.table o entries))

/-- The values of an array, each of them unwrapped. -/
def unwrapItems? : List Setting → Option (List Setting)
  | []         => some []
  | v :: items => do
    let v ← v.unwrap?
    let items ← unwrapItems? items
    some (v :: items)

/-- The entries of a table, the value of each of them unwrapped. -/
def unwrapEntries? : List (String × Setting) → Option (List (String × Setting))
  | []               => some []
  | entry :: entries => do
    let entry ← unwrapPair? entry
    let entries ← unwrapEntries? entries
    some (entry :: entries)

/-- A key with its value unwrapped. -/
def unwrapPair? : String × Setting → Option (String × Setting)
  | (key, v) => v.unwrap?.map fun v => (key, v)

end

end ClockStretch.Config
