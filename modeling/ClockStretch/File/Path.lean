import ClockStretch.Text.Utf8

/-!
# Paths

A path is a sequence of bytes, of which only the slash has a meaning. It need not be UTF-8; it is
shown with replacement characters where it is not.
-/

namespace ClockStretch

/-- One name of a path, between two slashes. -/
abbrev Name := List UInt8

/-- A path as it was given. -/
structure Path where
  bytes : List UInt8
deriving DecidableEq, Repr

namespace Path

/-- The byte between two names. -/
def slash : UInt8 := 0x2f

/-- The name of a directory in itself. -/
def selfName : Name := [0x2e]

/-- The name of the parent of a directory. -/
def parentName : Name := [0x2e, 0x2e]

/-- The path with the bytes of a text. -/
def ofText (s : String) : Path := ⟨Text.encodeUtf8 s⟩

/-- The path as a text, with a replacement character for each malformed sequence. -/
def display (p : Path) : String := Text.decodeUtf8Lossy p.bytes

/-- Whether the path has no bytes. -/
def isEmpty (p : Path) : Bool := p.bytes.isEmpty

/-- Whether the path starts at the root. -/
def isAbsolute (p : Path) : Bool := p.bytes.head? == some slash

/-- The names of the path in order. -/
def names (p : Path) : List Name := (p.bytes.splitOn slash).filter (! ·.isEmpty)

/-- The names of the path without those that stay in place. -/
def components (p : Path) : List Name := p.names.filter (· != selfName)

/-- The second path seen from the first: itself if it is absolute, else appended with a slash
where one is missing. -/
def join (p q : Path) : Path :=
  if q.isAbsolute then q
  else if p.isEmpty || p.bytes.getLast? == some slash then ⟨p.bytes ++ q.bytes⟩
  else ⟨p.bytes ++ slash :: q.bytes⟩

/-- The relative path with the given names. -/
def ofNames (ns : List Name) : Path := ⟨List.intercalate [slash] ns⟩

/-- The absolute path with the given names. -/
def ofRoot (ns : List Name) : Path := ⟨slash :: (ofNames ns).bytes⟩

/-- The names of a path seen from a directory, where both are given by their names from the root:
what they have in common falls away, and each other name of the directory is left by its parent. -/
def relativeTo : List Name → List Name → List Name
  | d :: directory, n :: names =>
    if d = n then relativeTo directory names
    else parentName :: directory.map (fun _ => parentName) ++ n :: names
  | directory,      names      => directory.map (fun _ => parentName) ++ names

end Path

end ClockStretch
