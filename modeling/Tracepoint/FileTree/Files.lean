import Tracepoint.Build
import Tracepoint.FileTree.Access

/-!
# Building in a file tree
-/

set_option autoImplicit false

namespace Tracepoint.FileTree

/-- A directory entry as a build sees it. -/
def directoryEntry (t : FileTree) (current : Inode) (directory name : Bytes) (inode : Inode) :
    DirectoryEntry :=
  { name
    isDirectory := t.isDirectory inode
    format := t.readText current (DirectoryEntry.formatPath directory name) }

/-- Changes the tree by a system call. -/
def change (path : Bytes) (call : FileTree → Except Errno FileTree) :
    StateM FileTree (Except IoError Unit) := do
  match onPath path (call (← get)) with
  | .error e => return .error e
  | .ok t =>
    set t
    return .ok ()

/-- Access to the files of a tree from one of its directories. -/
def access (current : Inode) : Files (StateM FileTree) where
  list path := do
    let t ← get
    return (onPath path (t.list current path)).map fun entries =>
      entries.map fun (name, inode) => .ok (t.directoryEntry current path name inode)
  createDirs path := change path fun t => t.createDirs current path
  write path content := change path fun t => t.writeFile current path (Text.toBytes content)

end Tracepoint.FileTree
