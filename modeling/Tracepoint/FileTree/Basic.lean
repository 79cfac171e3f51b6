import Tracepoint.Descriptor.Table
import Tracepoint.IoError

/-!
# File trees

Directories, files and symbolic links, as a file system keeps them: every one has a number, and
directories map names to numbers, so that a file can have several names.
-/

set_option autoImplicit false

namespace Tracepoint

/-- The number of a directory, a file or a link. -/
abbrev Inode := Nat

/-- What is behind a number. -/
inductive Node where
  /-- Its parent, and what it contains in the order of creation. -/
  | directory (parent : Inode) (entries : List (Bytes × Inode))
  | file (content : Bytes)
  | symlink (target : Bytes)
  deriving DecidableEq, Repr

/-- A file system. -/
structure FileTree where
  nodes : List (Inode × Node)
  /-- The first number that is free. -/
  next : Inode
  deriving DecidableEq, Repr

namespace FileTree

/-- The number of the root directory, which is its own parent. -/
def root : Inode := 0

/-- The file system with nothing but its root. -/
def empty : FileTree :=
  ⟨[(root, .directory root [])], 1⟩

/-- What is behind a number. -/
def node? (t : FileTree) (inode : Inode) : Option Node :=
  Assoc.find? inode t.nodes

/-- Puts something behind a number. -/
def setNode (t : FileTree) (inode : Inode) (node : Node) : FileTree :=
  { t with nodes := Assoc.insert inode node t.nodes }

/-- Gives a name in a directory to a number, in the place of what had that name. -/
def setEntry (t : FileTree) (parent : Inode) (name : Bytes) (inode : Inode) : FileTree :=
  match t.node? parent with
  | some (.directory up entries) =>
    t.setNode parent (.directory up (Assoc.insert name inode entries))
  | _ => t

/-- Takes a name out of a directory. -/
def dropEntry (t : FileTree) (parent : Inode) (name : Bytes) : FileTree :=
  match t.node? parent with
  | some (.directory up entries) => t.setNode parent (.directory up (Assoc.erase name entries))
  | _ => t

/-- Makes something new under a name in a directory. -/
def create (t : FileTree) (parent : Inode) (name : Bytes) (node : Node) : FileTree :=
  let t' := t.setNode t.next node
  { t'.setEntry parent name t.next with next := t.next + 1 }

/-- Whether a number is that of a directory. -/
def isDirectory (t : FileTree) (inode : Inode) : Bool :=
  match t.node? inode with
  | some (.directory _ _) => true
  | _ => false

/-- Whether a number is that of a symbolic link. -/
def isSymlink (t : FileTree) (inode : Inode) : Bool :=
  match t.node? inode with
  | some (.symlink _) => true
  | _ => false

end FileTree

end Tracepoint
