import Tracepoint.Descriptor.Procfs
import Tracepoint.FileTree.Access

/-!
# Processes in a file tree

A directory with one directory per process answers the questions about processes.
-/

set_option autoImplicit false

namespace Tracepoint.FileTree

/-- The device that the files of a tree are on. -/
def device : UInt64 × UInt64 := (0xFFFF1, 0xFFFF2)

/-- The first inode number of a tree; low numbers are left to files elsewhere. -/
def firstInode : Nat := 0xFFFF00000000

/-- The identity of a file. -/
def identity (inode : Inode) : Identity :=
  ⟨UInt64.ofNat (firstInode + inode), device.1, device.2⟩

/-- The answers of the processes under the directory at `root`. -/
def procfs (t : FileTree) (current : Inode) (root : Bytes) : Procfs where
  readlink pid fd :=
    let path := Procfs.linkPath root pid fd
    onPath path (t.readlink current path)
  stat pid path :=
    ((t.stat current (Procfs.filePath root pid path)).map identity).mapError IoError.ofErrno

end Tracepoint.FileTree
