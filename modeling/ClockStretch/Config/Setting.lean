import ClockStretch.Table
import ClockStretch.Text.Quoted
import ClockStretch.Text.Shortest

/-!
# Settings

The values that the sources of the configuration give, as a tree in which every node knows the
source that it came from. A tree laid over another keeps what the other has alone: tables are
merged key by key, and of anything else the upper one stays.
-/

namespace ClockStretch.Config

/-- Where a value came from; a file is named as it is shown in errors. -/
inductive Origin where
  | defaults
  | file (shown : String)
  | environment
deriving DecidableEq, Repr

/-- A value without parts. -/
inductive Scalar where
  | bool (b : Bool)
  | unsigned (n : Nat)
  | signed (i : Int)
  | float (x : Text.Binary64)
  | string (s : String)
deriving DecidableEq, Repr

/-- A tree of values with their origins. The keys of a table are distinct. -/
inductive Setting where
  | scalar (origin : Origin) (value : Scalar)
  | array (origin : Origin) (items : List Setting)
  | table (origin : Origin) (entries : List (String × Setting))

namespace Setting

/-- The source that a value came from. -/
def origin : Setting → Origin
  | .scalar o _ => o
  | .array o _  => o
  | .table o _  => o

end Setting

mutual

/-- The second tree laid over the first. A merged table counts as coming from the upper one. -/
def Setting.merge (below : Setting) : Setting → Setting
  | .table o upper  =>
    match below with
    | .table _ lower => .table o (mergeEntries lower upper)
    | _              => .table o upper
  | .array o items  => .array o items
  | .scalar o value => .scalar o value

/-- Entries laid over the entries of a table, one after the other. -/
def mergeEntries (lower : List (String × Setting)) :
    List (String × Setting) → List (String × Setting)
  | []            => lower
  | entry :: rest => mergeEntries (mergeEntry lower entry) rest

/-- One entry laid over the entries of a table. -/
def mergeEntry (lower : List (String × Setting)) :
    String × Setting → List (String × Setting)
  | (key, value) =>
    match lower.lookup key with
    | some old => Table.put key (old.merge value) lower
    | none     => Table.put key value lower

end

end ClockStretch.Config
