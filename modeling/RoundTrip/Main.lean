import RoundTrip.CommandLine.Invocation
import RoundTrip.Native.StandIn

/-! # The program

Reads the files that a command line names, runs the invocation on them, and writes what it wrote.
The engines behind the libraries are the stand-ins, and time is theirs.
-/
namespace RoundTrip.Program

/-- What a path leads to. -/
def nodeAt (path : String) : IO (Option Node) := do
  try
    let info ← (← IO.FS.realPath path).metadata
    match info.type with
    | .dir => return some .directory
    | .file =>
        let size := some info.byteSize.toNat
        try
          let bytes ← IO.FS.readBinFile path
          return some (.file ⟨bytes.toList, size, .plain⟩ true)
        catch _ => return some (.file ⟨[], size, .plain⟩ false)
    | _ => return some .device
  catch _ => return none

/-- Adds what a path leads to. -/
def add (files : FileSystem) (path : String) : IO FileSystem := do
  match ← nodeAt path with
  | none => return files
  | some node => return files.place (Text.utf8 path) node

/-- The files that the options name: the libraries and the input. -/
def gather (options : Options) : IO FileSystem := do
  let dir := LibraryDir.withSlash options.libraryDir
  let mut files := { FileSystem.fresh with programDirectory := (← IO.appDir).toString }
  for engine in Engine.all do
    files ← add files (Loader.fileName files (dir ++ engine.libraryFile))
  match options.input with
  | none => return files
  | some word => add files (Text.lossyText word)

/-- Runs the program on the words of its command line. -/
def run (words : List Word) : IO CommandLine.Ending := do
  let files ← match CommandLine.parse words with
    | .ok options => gather options
    | .error _ => pure .fresh
  return CommandLine.invoke StandIn.native () files words

end RoundTrip.Program

def main (args : List String) : IO UInt32 := do
  let ending ← RoundTrip.Program.run ((RoundTrip.programName :: args).map RoundTrip.Text.utf8)
  (← IO.getStdout).write ⟨ending.output.toArray⟩
  (← IO.getStderr).putStr ending.errors
  return ending.status.toUInt32
