import SyntaxGraft.Command.Manifest
import SyntaxGraft.Command.Run
/-!
# The command line

The outer layer: it reads the manifest, the files and the standard input, runs the command, prints
what it prints and writes the files that changed.
-/

namespace SyntaxGraft.Command

/-- The name of the manifest in the working directory. -/
def manifestName : String := ".syntax-graft.toml"

/-- What is printed for arguments that fit no command. -/
def usageText : String := "error: the arguments fit no command; see --help\n"

/-- The content of a file, if it can be read. -/
def readContent? (path : String) : IO (Option ByteArray) :=
  try
    return some (← IO.FS.readBinFile path)
  catch _ =>
    return none

/-- The manifest of the working directory; an empty one if there is none. -/
def loadManifest : IO Manifest := do
  let document? := (← readContent? manifestName).bind fun content => (Utf8.decode content).toOption
  return (document?.bind Manifest.read?).getD {}

/-- The paths that a request names. -/
def Request.paths : Request → List Text
  | .version | .help => []
  | .search _ _ _ paths => paths
  | .replace _ _ _ _ paths => paths
  | .apply rules _ paths => rules :: paths

/-- The store with the files that can be read, in the working directory of the process. -/
def loadFiles (paths : List Text) : IO FileStore := do
  let working := (toString (← IO.currentDir)).toList
  let home := FileStore.placeOf [] working
  paths.foldlM (fun store path => do
    match ← readContent? (String.ofList path) with
    | some content => return store.put path content
    | none => return store) { home }

/-- Writes the files of a store that differ from those of another. -/
def saveFiles (before after : FileStore) : IO Unit := do
  for (place, content) in after.files do
    if (before.get? place).map ByteArray.toList ≠ some content.toList then
      IO.FS.writeBinFile ("/" ++ "/".intercalate (place.map String.ofList)) content

/-- Everything that can be read from a stream. -/
partial def readAll (stream : IO.FS.Stream) (read : ByteArray) : IO ByteArray := do
  let more ← stream.read 65536
  if more.isEmpty then return read else readAll stream (read ++ more)

/-- Runs a request in the working directory. -/
def perform (request : Request) : IO UInt32 := do
  let manifest ← loadManifest
  let store ← loadFiles (manifest.files ++ request.paths)
  let standard ←
    if request.paths.contains ['-'] then readAll (← IO.getStdin) .empty else pure .empty
  let (report, sources) := request.run manifest.grammar { store, standard }
  IO.print (String.ofList report.output)
  IO.eprint (String.ofList report.errors)
  saveFiles store sources.store
  return report.exitCode.toUInt32

end SyntaxGraft.Command

/-- Runs the command that the arguments ask for. -/
def main (args : List String) : IO UInt32 := do
  match SyntaxGraft.Command.Request.ofArguments? (args.map String.toList) with
  | some request => SyntaxGraft.Command.perform request
  | none =>
    IO.eprint SyntaxGraft.Command.usageText
    return 2
