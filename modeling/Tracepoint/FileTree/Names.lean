import Tracepoint.FileTree.Walk

/-!
# Names in a file tree

Taking a name away, and moving what it stands for to another name.  Both mean the name itself: a
symbolic link is taken away or moved, never followed, and a slash after the name of anything but a
directory is refused.

No directory loses its name but to another directory that takes its place, which it allows only
when it is empty, and none is moved below itself: what has a name can be reached from the root.
-/

set_option autoImplicit false

namespace Tracepoint.FileTree

/-- Takes away the name of a file or a link. -/
def remove (t : FileTree) (current : Inode) (path : Bytes) : Except Errno FileTree :=
  match t.ending current path with
  | .error e => .error e
  | .ok ⟨_, none, _⟩ => .error .isDirectory
  | .ok ⟨parent, some name, slash⟩ =>
    match t.child? parent name with
    | .error e => .error e
    | .ok none => .error .noEntry
    | .ok (some inode) =>
      if t.isDirectory inode then .error .isDirectory
      else if slash then .error .notDirectory
      else .ok (t.dropEntry parent name)

/-- Whether a directory is `above` or at most `height` levels below it. -/
def isWithin (t : FileTree) (above : Inode) : Nat → Inode → Bool
  | 0, inode => inode = above
  | height + 1, inode =>
    inode = above ||
      match t.node? inode with
      | some (.directory parent _) => isWithin t above height parent
      | _ => false

/-- Whether a directory is another one or anywhere below it. -/
def isBelow (t : FileTree) (above inode : Inode) : Bool :=
  t.isWithin above t.nodes.length inode

/-- Why something may not take the place of what is there, if it may not.  A directory takes the
place of an empty one only, and all else that of anything but a directory. -/
def replaceFault? (t : FileTree) (inode there : Inode) : Option Errno :=
  match t.isDirectory inode, t.node? there with
  | true, some (.directory _ []) => none
  | true, some (.directory _ _) => some .notEmpty
  | true, _ => some .notDirectory
  | false, some (.directory _ _) => some .isDirectory
  | false, _ => none

/-- Moves what a name stands for to another name.  A directory gets the parent that it is now
named in. -/
def moveEntry (t : FileTree) (parent : Inode) (name : Bytes) (newParent : Inode) (newName : Bytes)
    (inode : Inode) : FileTree :=
  let adopted :=
    match t.node? inode with
    | some (.directory _ entries) => t.setNode inode (.directory newParent entries)
    | _ => t
  (adopted.dropEntry parent name).setEntry newParent newName inode

/-- Gives a new name in the place of an old one.  Two names of one file both stay. -/
def rename (t : FileTree) (current : Inode) (path target : Bytes) : Except Errno FileTree :=
  match t.ending current path, t.ending current target with
  | .error e, _ => .error e
  | _, .error e => .error e
  | .ok ⟨parent, some name, slash⟩, .ok ⟨newParent, some newName, newSlash⟩ =>
    match t.child? parent name, t.child? newParent newName with
    | .error e, _ => .error e
    | .ok none, _ => .error .noEntry
    | _, .error e => .error e
    | .ok (some inode), .ok there? =>
      if !t.isDirectory inode && (slash || newSlash) then .error .notDirectory
      else if t.isBelow inode newParent then .error .invalid
      else
        match there? with
        | none => .ok (t.moveEntry parent name newParent newName inode)
        | some there =>
          if t.isBelow there parent then .error .notEmpty
          else if there = inode then .ok t
          else
            match t.replaceFault? inode there with
            | some e => .error e
            | none => .ok (t.moveEntry parent name newParent newName inode)
  | _, _ => .error .busy

end Tracepoint.FileTree
