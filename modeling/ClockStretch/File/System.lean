import ClockStretch.File.Path
import ClockStretch.File.Contents

/-!
# The file system

A tree of directories, regular files and the null device, given by the node at each location, and
the working directory. A path is walked name by name; the first name that cannot be walked decides
how opening it fails.
-/

namespace ClockStretch

/-- Why a path could not be opened. -/
inductive OpenFailure where
  | nulByte
  | noSuchFile
  | notDirectory
  | isDirectory
  | nameTooLong
  | other (message : String)
deriving DecidableEq, Repr

/-- The wording of a failure to open. -/
def OpenFailure.message : OpenFailure → String
  | .nulByte         => "file name contained an unexpected NUL byte"
  | .noSuchFile      => "No such file or directory (os error 2)"
  | .notDirectory    => "Not a directory (os error 20)"
  | .isDirectory     => "Is a directory (os error 21)"
  | .nameTooLong     => "File name too long (os error 36)"
  | .other message   => message

/-- The names on the way from the root. -/
abbrev Location := List Name

/-- What is at a location. -/
inductive Node where
  | directory
  | regular (contents : Contents)
  | nullDevice

/-- The files that a process sees, and the directory that it works in. -/
structure FileSystem where
  nodes : List (Location × Node)
  workingDirectory : Location

namespace FileSystem

/-- The longest name that a directory holds. -/
def longestName : Nat := 255

/-- The longest path, with its closing zero byte. -/
def longestPath : Nat := 4096

/-- The node at a location; the root is always a directory. -/
def node? (fs : FileSystem) (l : Location) : Option Node :=
  if l.isEmpty then some .directory else fs.nodes.lookup l

/-- The contents of the regular file at a location. -/
def contents? (fs : FileSystem) (l : Location) : Option Contents :=
  match fs.node? l with
  | some (.regular c) => some c
  | _                 => none

/-- The file system with other contents in the regular file at a location. -/
def setContents (fs : FileSystem) (l : Location) (c : Contents) : FileSystem :=
  { fs with
    nodes := fs.nodes.map fun (at', node) =>
      match node with
      | .regular old => (at', .regular (if at' = l then c else old))
      | node         => (at', node) }

/-- The file system with a node at a location and directories on the way to it. -/
def insert (fs : FileSystem) (l : Location) (node : Node) : FileSystem :=
  let ways := (List.range l.length).map l.take
  let missing := ways.filter fun way => (fs.node? way).isNone
  { fs with nodes := (l, node) :: missing.map (·, .directory) ++ fs.nodes }

/-! ### Walking a path -/

/-- One name walked from a location. -/
def enter (fs : FileSystem) (l : Location) (name : Name) : Except OpenFailure Location :=
  match fs.node? l with
  | none            => .error .noSuchFile
  | some .directory =>
    if name = Path.selfName then .ok l
    else if name = Path.parentName then .ok l.dropLast
    else if longestName < name.length then .error .nameTooLong
    else if (fs.node? (l ++ [name])).isSome then .ok (l ++ [name])
    else .error .noSuchFile
  | some _          => .error .notDirectory

/-- The location that a path leads to. A closing slash asks for a directory. -/
def locate (fs : FileSystem) (p : Path) : Except OpenFailure Location := do
  if 0 ∈ p.bytes then throw .nulByte
  if longestPath ≤ p.bytes.length then throw .nameTooLong
  if p.isEmpty then throw .noSuchFile
  let l ← p.names.foldlM fs.enter (if p.isAbsolute then [] else fs.workingDirectory)
  if p.bytes.getLast? = some Path.slash then
    match fs.node? l with
    | some .directory => return l
    | _               => throw .notDirectory
  return l

/-- The location of a path that can be opened for reading and writing. -/
def openForWriting (fs : FileSystem) (p : Path) : Except OpenFailure Location := do
  let l ← fs.locate p
  match fs.node? l with
  | some .directory => throw .isDirectory
  | some _          => return l
  | none            => throw .noSuchFile

/-- The contents of the regular file that a path leads to. -/
def regularFile? (fs : FileSystem) (p : Path) : Option Contents :=
  match fs.locate p with
  | .ok l    => fs.contents? l
  | .error _ => none

end FileSystem

end ClockStretch
