import Colloquy.Command.Run

/-!
# The program

Reads the command line, loads what its paths lead to, runs the command on that, and prints the
report.
-/

namespace Colloquy

/-- The cause that an error of the system stands for. -/
def FileError.ofSystem : IO.Error → FileError
  | .noFileOrDirectory _ 20 _ => .notDirectory
  | .noFileOrDirectory .. => .notFound
  | .permissionDenied .. => .permissionDenied
  | .inappropriateType _ 21 _ => .isDirectory
  | .inappropriateType .. => .notDirectory
  | cause => .other (toString cause)

/-- Read a file as text. -/
def loadFile (path : String) : IO FileContent := do
  try
    match String.fromUTF8? (← IO.FS.readBinFile path) with
    | some text => return .ok text
    | none => return .error .notText
  catch cause => return .error (.ofSystem cause)

/-- Read the fixtures of a directory and of everything below it. What cannot be listed counts as
empty. -/
partial def loadDirectory (path : String) : IO Directory := do
  try
    let entries ← (← IO.FS.realPath path).readDir
    entries.foldrM (fun entry rest ↦ do
      let below := Path.join path entry.fileName
      if ← entry.path.isDir then return .folder entry.fileName (← loadDirectory below) rest
      else if Fixture.isFixtureName entry.fileName then
        return .file entry.fileName (← loadFile below) rest
      else return rest) .nil
  catch _ => return .nil

/-- Load what a path leads to. -/
def loadEntry (path : String) : IO (Except FileError Entry) := do
  match ← loadFile path with
  | .error .isDirectory => return .ok (.folder (← loadDirectory path))
  | .error .notFound => return .error .notFound
  | .error .notDirectory => return .error .notDirectory
  | content => return .ok (.file content)

/-- Load what some paths lead to. -/
def loadPaths (paths : List String) : IO Command.Lookup := do
  let loaded ← paths.mapM fun path ↦ return (path, ← loadEntry path)
  return fun path ↦ (loaded.lookup path).getD (.error .notFound)

/-- Run a command line on the files of the system: print the report and give its exit code. -/
def runProgram (args : List String) : IO UInt32 := do
  let report ←
    match Command.ofArguments args with
    | .ok command => pure (command.run (← loadPaths command.paths))
    | .error stop => pure stop.report
  IO.print report.output
  IO.eprint report.messages
  return UInt32.ofNat report.exit

end Colloquy

/-- The entry point of the program. -/
def main (args : List String) : IO UInt32 := Colloquy.runProgram args
