import ClassChain.Batch.Run
import ClassChain.Files.Placement
import ClassChain.Palette.Run
import ClassChain.Settings.Reading

/-!
# The command line

`batch` with its arguments runs the batch program, anything else the command palette. The working directory stands for the root
of the file system. What stands in it is told to the batch program on standard input, one path a line, a directory with a slash
at its end; the palette looks at the files that its arguments name. What a run changed is written back. Settings come from the
environment, in variables named in capitals.
-/

namespace ClassChain.CommandLine

open Files (Path FileSystem Entry Location)

/-- All of a stream. -/
partial def readAll (stream : IO.FS.Stream) (sofar : ByteArray) : IO ByteArray := do
  let bytes ← stream.read 65536
  if bytes.isEmpty then return sofar else readAll stream (sofar ++ bytes)

/-- The path of a location as seen from the working directory. -/
def pathOf (l : Location) : String := "./" ++ "/".intercalate (l.map Files.Name.text)

/-- The entry that a path names in the working directory, if there is one. -/
def look (path : String) : IO (Option Entry) := do
  let real := "./" ++ path
  try
    return some (.file (← IO.FS.readBinFile real))
  catch _ =>
    try
      let _ ← IO.FS.Handle.mk (real ++ "/.") .read
      return some .directory
    catch _ => return none

/-- The file system with the entries that paths name. -/
def gather (fs : FileSystem) : List String → IO FileSystem
  | [] => return fs
  | path :: paths => do
    match ← if path.endsWith "/" then pure (some Entry.directory) else look path with
    | some entry => gather (fs.place (Path.ofText path) entry).files paths
    | none => gather fs paths

/-- Writes what is new in the working directory. -/
def writeBack (before : FileSystem) : List (Location × Entry) → IO Unit
  | [] => return ()
  | (l, entry) :: rest => do
    if before.get? l ≠ some entry then
      match entry with
      | .file content => IO.FS.writeBinFile (pathOf l) content
      | .directory => IO.FS.createDirAll (pathOf l)
      | .link _ => pure ()
    writeBack before rest

/-- Ends a run: writes back, prints, and gives the status. -/
def finish (s : Settings) (before : FileSystem) (run : Run) : IO UInt32 := do
  writeBack before run.files.toList
  if !s.quiet then
    for notice in run.notices do IO.eprintln notice.text
  for display in run.shown do IO.print display.plainText
  IO.print run.stdout
  IO.eprint run.stderr
  match run.escape? with
  | some cause =>
    IO.eprintln cause.message
    return 1
  | none => return UInt32.ofNat (run.exit?.getD 0)

/-- The variables of the environment that settings are read from. -/
def environment : IO (List (String × String)) :=
  Settings.Field.all.filterMapM fun field => do
    let name := "CHW_" ++ field.name.toUpper
    return (← IO.getEnv name).map fun value => (name, value)

/-- Runs the program that the arguments ask for. -/
def run (s : Settings) : List String → IO UInt32
  | "batch" :: args => do
    let listing ← readAll (← IO.getStdin) .empty
    let paths := (Text.splitWhere (· == '\n') (String.fromUTF8? listing |>.getD "").toList).map String.ofList
    let before ← gather .empty (paths.filter (· != ""))
    finish s before (Batch.run s false args before)
  | args => do
    let stdin ← if args.contains "-" then readAll (← IO.getStdin) .empty else pure .empty
    let before ← gather .empty args
    finish s before (Palette.run s stdin args before)

end ClassChain.CommandLine

/-- Runs the program with the settings of the environment. -/
def main (args : List String) : IO UInt32 := do
  match ClassChain.Settings.read (← ClassChain.CommandLine.environment) [] with
  | .ok s => ClassChain.CommandLine.run s args
  | .error error =>
    IO.eprintln error.message
    return 1
