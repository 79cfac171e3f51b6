import Tracepoint.Artifact.All
import Tracepoint.Schema.Directory

/-!
# Building artifacts

From a directory of tracepoints to files with generated sources.  Files are reached through a few
operations that whoever runs the build supplies.
-/

set_option autoImplicit false

namespace Tracepoint

/-- Access to files, in the surroundings `m`. -/
structure Files (m : Type → Type) where
  /-- What a directory contains. -/
  list : Bytes → m (Except IoError Listing)
  /-- Makes a directory with the parents it lacks. -/
  createDirs : Bytes → m (Except IoError Unit)
  /-- Writes a file, making it or replacing its content. -/
  write : Bytes → String → m (Except IoError Unit)

/-! ## Errors -/

/-- Why a build fails. -/
inductive BuildError where
  /-- A format is rejected. -/
  | schema (error : SchemaError)
  /-- The directory of tracepoints cannot be listed. -/
  | listing (directory : Bytes) (error : IoError)
  /-- Nothing can be generated. -/
  | generation (directory : Bytes) (error : AlignmentError)
  | createDirectory (directory : Bytes) (error : IoError)
  | write (file : Bytes) (error : IoError)
  deriving DecidableEq, Repr

/-- What is behind an error. -/
inductive Cause where
  | io (error : IoError)
  | alignment (error : AlignmentError)
  deriving DecidableEq, Repr

/-- The wording of a cause. -/
def Cause.message : Cause → String
  | .io e => e.text
  | .alignment e => e.message

namespace BuildError

/-- The wording of an error. -/
def message : BuildError → String
  | .schema e => e.message
  | .listing directory _ => "reading tracepoints from " ++ Text.ofBytes directory
  | .generation directory _ => "failed to generate sources from " ++ Text.ofBytes directory
  | .createDirectory directory _ => "failed to create " ++ Text.ofBytes directory
  | .write file _ => "failed to write " ++ Text.ofBytes file

/-- What is behind an error, if it is not all said in its wording. -/
def cause? : BuildError → Option Cause
  | .schema _ => none
  | .listing _ e | .createDirectory _ e | .write _ e => some (.io e)
  | .generation _ e => some (.alignment e)

/-- The report of an error with its cause. -/
def report (e : BuildError) : String :=
  "Error: " ++ e.message ++ "\n" ++
    match e.cause? with
    | none => ""
    | some cause => "\nCaused by:\n    " ++ cause.message ++ "\n"

end BuildError

/-! ## Building -/

namespace Build

variable {m : Type → Type} [Monad m]

/-- The schemas of a directory of tracepoints, and what is logged on the way. -/
def gather (files : Files m) (directory : Bytes) :
    m (Except BuildError Schemas × List LogLine) := do
  match ← files.list directory with
  | .error e => return (.error (.listing directory e), [])
  | .ok listing =>
    let gathered := Gathered.ofListing directory listing
    return (gathered.result.mapError .schema, gathered.log)

/-- What is generated from the schemas of a directory. -/
def generate (directory : Bytes) (schemas : Schemas) : Except BuildError Artifacts :=
  (Artifacts.ofSchemas schemas).mapError (.generation directory)

/-- The artifacts of a directory of tracepoints, and what is logged on the way. -/
def artifacts (files : Files m) (directory : Bytes) :
    m (Except BuildError Artifacts × List LogLine) := do
  let (schemas, log) ← gather files directory
  return (schemas.bind (generate directory), log)

/-- Writes files in order, up to the first that fails. -/
def writeFiles (files : Files m) (directory : Bytes) :
    List (String × String) → m (Except BuildError Unit)
  | [] => return .ok ()
  | (name, content) :: rest => do
    let path := Path.join directory (Text.toBytes name)
    match ← files.write path content with
    | .error e => return .error (.write path e)
    | .ok () => writeFiles files directory rest

/-- Writes artifacts into a directory, which has to be there. -/
def writeArtifacts (files : Files m) (directory : Bytes) (artifacts : Artifacts) :
    m (Except BuildError Unit) :=
  writeFiles files directory artifacts.files

/-- Builds the artifacts of a directory of tracepoints into another directory. -/
def run (files : Files m) (tracepoints out : Bytes) : m (Except BuildError Unit) := do
  let (built, _) ← artifacts files tracepoints
  match built with
  | .error e => return .error e
  | .ok built =>
    match ← files.createDirs out with
    | .error e => return .error (.createDirectory out e)
    | .ok () => writeArtifacts files out built

end Build

/-! ## Where tracepoints are taken from -/

/-- A source of tracepoint formats. -/
inductive FormatSource where
  /-- The formats that come with the library. -/
  | bundled
  | directory (path : Bytes)
  deriving DecidableEq, Repr

/-- The source that a setting names; without one, or with an empty one, the bundled formats. -/
def FormatSource.ofSetting (setting? : Option Bytes) : FormatSource :=
  match setting? with
  | none | some [] => .bundled
  | some path => .directory path

end Tracepoint
