/-!
# Tables

A table is the list of its keys with their values, looked up from the front. A key keeps its place
when its value is replaced, and a new key comes last.
-/

namespace ClockStretch.Table

variable {κ α : Type} [DecidableEq κ]

/-- The table with the value of one key replaced, or with the key added at the end. -/
def put (key : κ) (value : α) : List (κ × α) → List (κ × α)
  | []               => [(key, value)]
  | (k, old) :: rest => if k = key then (k, value) :: rest else (k, old) :: put key value rest

end ClockStretch.Table
