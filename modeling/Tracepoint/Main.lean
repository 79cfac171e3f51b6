import Tracepoint.CommandLine

/-!
# The program

Runs the command line on the files of the machine.
-/

set_option autoImplicit false

namespace Tracepoint.Program

/-- A failure as the machine reports it. -/
def ioError : IO.Error → IoError
  | .noFileOrDirectory _ code details => ⟨.notFound, s!"{details} (os error {code})"⟩
  | .permissionDenied _ code details => ⟨.permissionDenied, s!"{details} (os error {code})"⟩
  | .alreadyExists _ code details => ⟨.alreadyExists, s!"{details} (os error {code})"⟩
  | .inappropriateType _ code details => ⟨.notADirectory, s!"{details} (os error {code})"⟩
  | .invalidArgument _ code details => ⟨.invalidInput, s!"{details} (os error {code})"⟩
  | .resourceExhausted _ code details => ⟨.other, s!"{details} (os error {code})"⟩
  | .otherError code details => ⟨.other, s!"{details} (os error {code})"⟩
  | e => ⟨.other, toString e⟩

/-- Does something with files, and keeps a failure as a value. -/
def attempt {α : Type} (action : IO α) : IO (Except IoError α) := do
  match ← action.toBaseIO with
  | .ok a => return .ok a
  | .error e => return .error (ioError e)

/-- The content of a file that holds text. -/
def readText (path : Bytes) : IO (Except IoError String) := do
  match ← attempt (IO.FS.readBinFile (Text.ofBytes path)) with
  | .error e => return .error e
  | .ok content =>
    match Text.Utf8.decode? content.toList with
    | some cs => return .ok (String.ofList cs)
    | none => return .error .notText

/-- What a directory contains, with the formats in its directories. -/
def list (path : Bytes) : IO (Except IoError Listing) := do
  let base ← IO.currentDir
  match ← attempt (base / Text.ofBytes path).readDir with
  | .error e => return .error e
  | .ok found =>
    let entries ← found.toList.mapM fun entry => do
      let name := Text.toBytes entry.fileName
      let isDirectory :=
        match ← attempt entry.path.symlinkMetadata with
        | .ok metadata => metadata.type == .dir
        | .error _ => false
      let format ←
        if isDirectory then readText (DirectoryEntry.formatPath path name)
        else pure (.error (.ofErrno .notDirectory))
      return .ok { name, isDirectory, format }
    return .ok entries

/-- Access to the files of the machine. -/
def files : Files IO where
  list := list
  createDirs path := attempt (IO.FS.createDirAll (Text.ofBytes path))
  write path content := attempt (IO.FS.writeFile (Text.ofBytes path) content)

/-- How the program is called. -/
def usage : String :=
  "Usage: tracepoint [OPTIONS]\n\n" ++
  "Options:\n" ++
  "      --tracefs <TRACEFS>  Directory holding the tracepoints\n" ++
  "  -o, --out <OUT>          Where to write the generated sources\n" ++
  "  -h, --help               Print help\n" ++
  "  -V, --version            Print version\n"

/-- Does what the arguments ask for, and says what there is to say. -/
def run (args : List String) : IO UInt32 := do
  match CommandLine.Invocation.ofArgs args with
  | .request .help => IO.print usage
  | .request .version => IO.println "tracepoint 0.1.0"
  | .misuse => IO.eprint usage
  | .build _ _ => pure ()
  let exit ← CommandLine.run files args
  match exit with
  | .failure e => IO.eprint e.report
  | _ => pure ()
  return exit.code.toUInt32

end Tracepoint.Program

/-- Runs the command line. -/
def main (args : List String) : IO UInt32 :=
  Tracepoint.Program.run args
