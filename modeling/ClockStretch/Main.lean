import ClockStretch.Program

/-!
# The command

The program with the arguments, variables and files of its process. It works on an image of the
files that it can meet: the candidates for the configuration file, and of the device the block of
registers of the request. What it changed in the block is written back.
-/

namespace ClockStretch.Command

/-- The strings of a sequence in which each of them ends in a zero byte. -/
def zeroEnded (bytes : List UInt8) : List (List UInt8) := (bytes.splitOn 0).dropLast

/-- The location that a path names, walked name by name. -/
def walk (l : Location) (name : Name) : Location :=
  if name = Path.selfName then l else if name = Path.parentName then l.dropLast else l ++ [name]

/-- The image with one more file, and with the directories on the way to it. -/
def place (fs : FileSystem) (p : Path) (contents : Contents) : FileSystem :=
  let step (way : Location × FileSystem) (name : Name) : Location × FileSystem :=
    let (l, fs) := way
    (walk l name, if (fs.node? l).isSome then fs else fs.insert l .directory)
  let start := if p.isAbsolute then [] else fs.workingDirectory
  let (l, fs) := p.names.foldl step (start, fs)
  fs.insert l (.regular contents)

/-- The number of bytes that are read at a time. -/
def chunk : Nat := 0x100000

/-- A file read up to a position, or up to its end if that comes first. -/
def skip (h : IO.FS.Handle) (position : Nat) : IO Unit := do
  for _ in [0:position / chunk] do
    if (← h.read chunk.toUSize).isEmpty then return
  if position % chunk ≠ 0 then
    discard (h.read (position % chunk).toUSize)

/-- The image with the candidates for the configuration file. -/
def addCandidates (fs : FileSystem) (given : Path) : IO FileSystem := do
  let mut image := fs
  for p in Config.candidates fs given do
    if let some name := Text.decodeUtf8? p.bytes then
      try
        let bytes ← IO.FS.readBinFile name
        image := place image p (.ofBytes bytes.toList)
      catch _ => pure ()
  return image

/-- The image with the block of registers of a device, if there is one. -/
def addDevice (fs : FileSystem) (device : Path) (base : Nat) : IO FileSystem := do
  let some name := Text.decodeUtf8? device.bytes | return fs
  try
    let h ← IO.FS.Handle.mk name .readWrite
    skip h base
    let bytes ← h.read Register.blockSize.toUSize
    let contents := (Contents.zeros (base + Register.blockSize)).storeBytes base bytes.toList
    return place fs device contents
  catch
    | .noFileOrDirectory .. => return fs
    | e                     => throw e

/-- The words of a block that differ from what they were, written to the device. -/
def writeBack (before after : FileSystem) (device : Path) (base : Nat) : IO Unit := do
  let some name := Text.decodeUtf8? device.bytes | return
  let some old := before.regularFile? device | return
  let some new := after.regularFile? device | return
  for r in Register.all do
    let position := base + r.offset
    if old.loadWord position ≠ new.loadWord position then
      let h ← IO.FS.Handle.mk name .readWrite
      skip h position
      h.flush
      h.write (Contents.bytesOfWord (new.loadWord position)).toByteArray
      h.flush

/-- The environment of the process. -/
def environment : IO Environment := do
  let bytes ← IO.FS.readBinFile "/proc/self/environ"
  let equals : UInt8 := 0x3d
  let bindings := (zeroEnded bytes.toList).map fun v =>
    (v.takeWhile (· != equals), (v.dropWhile (· != equals)).drop 1)
  return ⟨bindings, none⟩

/-- The arguments of the process, without its name. -/
def arguments : IO (List CommandLine.Argument) := do
  let bytes ← IO.FS.readBinFile "/proc/self/cmdline"
  return (zeroEnded bytes.toList).drop 1

/-- The program on images of the files. -/
def run : IO UInt32 := do
  let env ← environment
  let args ← arguments
  let cwd ← IO.currentDir
  let here := (Path.ofText (toString cwd)).names
  let empty : FileSystem := ⟨[(here, .directory)], here⟩
  let config? := (CommandLine.read args).toOption
  let given := (config?.bind (·.config?)).getD (Config.defaultPath env)
  let files ← addCandidates empty given
  let plan? := config?.bind fun c => (Program.plan env files c).toOption
  let files ←
    match plan? with
    | some (request, config) => addDevice files config.device.path request.base.value.toNat
    | none                   => pure files
  let finish := Program.run env files args
  if let some (request, config) := plan? then
    writeBack files finish.files config.device.path request.base.value.toNat
  (← IO.getStdout).putStr finish.output
  (← IO.getStderr).putStr finish.diagnostics
  return finish.status.toUInt32

end ClockStretch.Command

/-- The command. A file that cannot be used at all ends it. -/
def main : IO UInt32 := do
  try ClockStretch.Command.run
  catch e =>
    IO.eprintln s!"ERROR {e}"
    return 1
