import ClockStretch.Toml.Item

/-!
# Documents of TOML

A document is a sequence of sections. The first one has no header; every other one has the header
of a table or of an element of an array of tables. A section is a list of assignments.
-/

namespace ClockStretch.Toml

open Config (Origin Setting)

/-- What a section fills: the document itself, a table, or a new element of an array of tables. -/
inductive Header where
  | root
  | table (path : List String) (key : String)
  | element (path : List String) (key : String)
deriving DecidableEq, Repr

/-- One line of a document. -/
inductive Line where
  | blank
  | header (h : Header)
  | assignment (a : Entries.Assignment)

/-- A header with its assignments. -/
structure Section where
  header : Header
  assignments : List Entries.Assignment

/-- A header behind its first bracket. -/
def readHeader : List Char → Option (Header × List Char)
  | '[' :: s => do
    match ← readKey s with
    | ((path, key), ']' :: ']' :: s) => some (.element path key, s)
    | _                              => none
  | s        => do
    match ← readKey s with
    | ((path, key), ']' :: s) => some (.table path key, s)
    | _                       => none

/-- One line with its end. -/
def readLine (origin : Origin) (s : List Char) : Option (Line × List Char) := do
  let (line, s) ←
    match skipBlanks s with
    | []        => some (.blank, [])
    | '#' :: s  => some (.blank, '#' :: s)
    | '\n' :: s => some (.blank, '\n' :: s)
    | '\r' :: s => some (.blank, '\r' :: s)
    | '[' :: s  => (readHeader s).map fun (h, s) => (.header h, s)
    | s         =>
      (readAssignment (readValue origin (nestingLimit - 1)) s).map fun (a, s) =>
        (Line.assignment a, s)
  some (line, ← skipLineEnd s)

/-- The lines of a text. The number bounds the lines. -/
def readLines (origin : Origin) : Nat → List Char → Option (List Line)
  | _,     [] => some []
  | 0,     _  => none
  | n + 1, s  => do
    let (line, s) ← readLine origin s
    let lines ← readLines origin n s
    some (line :: lines)

/-- Lines put into sections, where `rest` has the sections behind and `own` the assignments that
follow in the section that is open. -/
def sections : List Line → List Entries.Assignment × List Section
  | []                   => ([], [])
  | .blank :: lines      => sections lines
  | .assignment a :: lines =>
    let (own, rest) := sections lines
    (a :: own, rest)
  | .header h :: lines   =>
    let (own, rest) := sections lines
    ([], ⟨h, own⟩ :: rest)

/-- The document with one more section. -/
def addSection (es : Entries) (sec : Section) : Option Entries :=
  match sec.header with
  | .root             => es.assignAll sec.assignments
  | .table path key   =>
    Entries.within false
      (fun _ es =>
        match es.lookup key with
        | none                        => do
          let inner ← Entries.assignAll [] sec.assignments
          some (Table.put key (.table .opened inner) es)
        | some (.table .implied inner) => do
          let inner ← Entries.assignAll inner sec.assignments
          some (Table.put key (.table .opened inner) es)
        | some _                      => none)
      path .opened es
  | .element path key =>
    Entries.within false
      (fun _ es => do
        let inner ← Entries.assignAll [] sec.assignments
        match es.lookup key with
        | none                  => some (Table.put key (.tables [inner]) es)
        | some (.tables others) => some (Table.put key (.tables (inner :: others)) es)
        | some _                => none)
      path .opened es

/-- The table that a text writes, its values marked with their source. A mark of the byte order at
the front is skipped. -/
def document? (origin : Origin) (text : String) : Option (List (String × Setting)) := do
  let s :=
    match text.toList with
    | '\ufeff' :: s => s
    | s             => s
  let lines ← readLines origin (s.length + 1) s
  let (own, rest) := sections lines
  let es ← (⟨.root, own⟩ :: rest : List Section).foldlM addSection []
  some (settingEntries origin es)

end ClockStretch.Toml
