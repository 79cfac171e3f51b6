import Tracepoint.FileTree.Walk
import Tracepoint.Text.Utf8

/-!
# Access to a file tree

Reading and changing what paths lead to.  Paths are walked from the current directory; a failure
is reported as the system call that would have been made reports it.
-/

set_option autoImplicit false

namespace Tracepoint.FileTree

/-- A system call on a path; no system call can be given a path with a NUL byte. -/
def onPath {α : Type} (path : Bytes) (call : Except Errno α) : Except IoError α :=
  if path.contains 0 then .error .nulInName else call.mapError IoError.ofErrno

/-! ## Reading -/

/-- The number of the file that a path leads to. -/
def stat (t : FileTree) (current : Inode) (path : Bytes) : Except Errno Inode :=
  t.lookup .follow current path

/-- The number of what a path names, without following a link at its end. -/
def lstat (t : FileTree) (current : Inode) (path : Bytes) : Except Errno Inode :=
  t.lookup .find current path

/-- The target of a symbolic link. -/
def readlink (t : FileTree) (current : Inode) (path : Bytes) : Except Errno Bytes :=
  match t.lstat current path with
  | .error e => .error e
  | .ok inode =>
    match t.node? inode with
    | some (.symlink target) => .ok target
    | _ => .error .invalid

/-- What a directory contains. -/
def list (t : FileTree) (current : Inode) (path : Bytes) : Except Errno (List (Bytes × Inode)) :=
  match t.stat current path with
  | .error e => .error e
  | .ok inode =>
    match t.node? inode with
    | some (.directory _ entries) => .ok entries
    | _ => .error .notDirectory

/-- The content of a file. -/
def readFile (t : FileTree) (current : Inode) (path : Bytes) : Except Errno Bytes :=
  match t.stat current path with
  | .error e => .error e
  | .ok inode =>
    match t.node? inode with
    | some (.file content) => .ok content
    | _ => .error .isDirectory

/-- The content of a file that holds text. -/
def readText (t : FileTree) (current : Inode) (path : Bytes) : Except IoError String :=
  match onPath path (t.readFile current path) with
  | .error e => .error e
  | .ok content =>
    match Text.Utf8.decode? content with
    | some cs => .ok (String.ofList cs)
    | none => .error .notText

/-- All files under a directory with their paths from there, down to the given depth. -/
def filesBelow (t : FileTree) : Nat → Inode → List (Bytes × Bytes)
  | 0, _ => []
  | depth + 1, inode =>
    match t.node? inode with
    | some (.directory _ entries) =>
      entries.flatMap fun (name, child) =>
        match t.node? child with
        | some (.file content) => [(name, content)]
        | some (.directory _ _) =>
          (filesBelow t depth child).map fun (path, content) =>
            (name ++ Path.slash :: path, content)
        | _ => []
    | _ => []

/-- All files under a directory with their paths from there. -/
def files (t : FileTree) (inode : Inode) : List (Bytes × Bytes) :=
  t.filesBelow t.nodes.length inode

/-! ## Changing -/

/-- A path without slashes at its end, unless it is all slashes. -/
def withoutFinalSlashes (path : Bytes) : Bytes :=
  let trimmed := (path.reverse.dropWhile (· = Path.slash)).reverse
  if trimmed = [] then path else trimmed

/-- Makes a directory. -/
def mkdir (t : FileTree) (current : Inode) (path : Bytes) : Except Errno FileTree :=
  match t.place .find current (withoutFinalSlashes path) with
  | .error e => .error e
  | .ok (.found _) => .error .exists
  | .ok (.absent parent name) => .ok (t.create parent name (.directory parent []))

/-- The components of a path as one path again. -/
def ofComponents (components : List Path.Component) : Bytes :=
  components.foldl (fun path c =>
    Path.join path <| match c with
      | .root => [Path.slash]
      | .here => [Path.dot]
      | .up => [Path.dot, Path.dot]
      | .name bytes => bytes) []

/-- Whether a path leads to a directory. -/
def leadsToDirectory (t : FileTree) (current : Inode) (path : Bytes) : Bool :=
  match t.stat current path with
  | .ok inode => t.isDirectory inode
  | .error _ => false

/-- The directories on the way to where components lead, the last one first; the components are
given from the last one on. -/
def ancestors : List Path.Component → List Bytes
  | [] => []
  | last :: above => ofComponents (last :: above).reverse :: ancestors above

/-- Makes a directory with the parents it lacks, given its path and those of its parents. -/
def mkdirParents (t : FileTree) (current : Inode) : List Bytes → Except Errno FileTree
  | [] => .ok t
  | path :: above =>
    match t.mkdir current path with
    | .ok t => .ok t
    | .error .noEntry =>
      match mkdirParents t current above with
      | .error e => .error e
      | .ok t =>
        match t.mkdir current path with
        | .ok t => .ok t
        | .error e => if t.leadsToDirectory current path then .ok t else .error e
    | .error e => if t.leadsToDirectory current path then .ok t else .error e

/-- Makes a directory with the parents it lacks; a directory that is there stays.  The path itself
is taken as it is given, so that `.` in a directory that is missing cannot be made. -/
def createDirs (t : FileTree) (current : Inode) (path : Bytes) : Except Errno FileTree :=
  match (Path.components path).reverse with
  | [] => .ok t
  | _ :: above => t.mkdirParents current (path :: ancestors above)

/-- Writes a file, making it or replacing its content. -/
def writeFile (t : FileTree) (current : Inode) (path content : Bytes) : Except Errno FileTree :=
  match t.place .write current path with
  | .error e => .error e
  | .ok (.absent parent name) => .ok (t.create parent name (.file content))
  | .ok (.found inode) =>
    if t.isDirectory inode then .error .isDirectory else .ok (t.setNode inode (.file content))

/-- Makes a symbolic link.  Its target need not be there, but it must be a path. -/
def symlink (t : FileTree) (current : Inode) (path target : Bytes) : Except Errno FileTree :=
  match pathFault? target, t.place .find current path with
  | some e, _ => .error e
  | _, .error e => .error e
  | none, .ok (.found _) => .error .exists
  | none, .ok (.absent parent name) => .ok (t.create parent name (.symlink target))

/-- Gives another name to a file. -/
def link (t : FileTree) (current : Inode) (path target : Bytes) : Except Errno FileTree :=
  match t.lstat current target with
  | .error e => .error e
  | .ok inode =>
    if t.isDirectory inode then .error .permission
    else
      match t.place .find current path with
      | .error e => .error e
      | .ok (.found _) => .error .exists
      | .ok (.absent parent name) => .ok (t.setEntry parent name inode)

end Tracepoint.FileTree
