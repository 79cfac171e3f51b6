import Tracepoint.FileTree.Basic

/-!
# Walking a path

A path is walked piece by piece from a directory.  `.` and `..` mean the directory itself and its
parent; a symbolic link is replaced by its target, at the end of a path only if the walk is for
what the link leads to.  Where a name itself is meant, the walk stops before it, in the directory
that has or would have it.
-/

set_option autoImplicit false

namespace Tracepoint.FileTree

/-- What a walk is for. -/
inductive Purpose where
  /-- To find what the path names, be it a symbolic link. -/
  | find
  /-- To find what the path leads to. -/
  | follow
  /-- To write to the file that the path leads to, or to make it. -/
  | write
  deriving DecidableEq, Repr

/-- Where a path leads. -/
inductive Place where
  | found (inode : Inode)
  /-- To a name that its directory does not have. -/
  | absent (parent : Inode) (name : Bytes)
  deriving DecidableEq, Repr

/-- The most links that one walk follows. -/
def maxLinks : Nat := 40

/-- The longest name of a directory entry. -/
def maxName : Nat := 255

/-- The longest path that can be walked. -/
def maxPath : Nat := 4095

/-- The pieces of a path that are walked.  A slash at the end leaves an empty piece: it asks for a
directory. -/
def walkPieces (path : Bytes) : List Bytes :=
  let pieces := (Path.pieces path).filter (· ≠ [])
  if pieces ≠ [] ∧ path.getLast? = some Path.slash then pieces ++ [[]] else pieces

/-- Where the walk of a path starts. -/
def walkStart (current : Inode) (path : Bytes) : Inode :=
  if Path.isAbsolute path then root else current

/-- Walks pieces from `current`, following at most `links` links.  A name with a slash after it is
not written to, whether there is something of that name or not. -/
def walk (t : FileTree) (purpose : Purpose) (links : Nat) (current : Inode) :
    List Bytes → Except Errno Place
  | [] => .ok (.found current)
  | piece :: rest =>
    match t.node? current with
    | some (.directory parent entries) =>
      if piece = [] ∨ piece = [Path.dot] then walk t purpose links current rest
      else if piece = [Path.dot, Path.dot] then walk t purpose links parent rest
      else if purpose = .write ∧ rest = [[]] then .error .isDirectory
      else if piece.length > maxName then .error .nameTooLong
      else
        match Assoc.find? piece entries with
        | none => if rest = [] then .ok (.absent current piece) else .error .noEntry
        | some inode =>
          match t.node? inode with
          | some (.symlink target) =>
            if rest = [] ∧ purpose = .find then .ok (.found inode)
            else
              match links with
              | 0 => .error .loop
              | links + 1 =>
                walk t purpose links (walkStart current target) (walkPieces target ++ rest)
          | _ => walk t purpose links inode rest
    | _ => .error .notDirectory
  termination_by pieces => (links, pieces.length)

/-- Why a path cannot be walked from anywhere, if it cannot. -/
def pathFault? (path : Bytes) : Option Errno :=
  if path.contains 0 then some .invalid
  else if path = [] then some .noEntry
  else if path.length > maxPath then some .nameTooLong
  else none

/-- Where a path leads from a directory. -/
def place (t : FileTree) (purpose : Purpose) (current : Inode) (path : Bytes) :
    Except Errno Place :=
  match pathFault? path with
  | some e => .error e
  | none => t.walk purpose maxLinks (walkStart current path) (walkPieces path)

/-- What a path leads to, if there is something. -/
def lookup (t : FileTree) (purpose : Purpose) (current : Inode) (path : Bytes) :
    Except Errno Inode :=
  match t.place purpose current path with
  | .ok (.found inode) => .ok inode
  | .ok (.absent _ _) => .error .noEntry
  | .error e => .error e

/-! ## The name at the end of a path -/

/-- The end of a path. -/
structure Ending where
  /-- The directory that the path leads to without its last piece. -/
  parent : Inode
  /-- The last piece; the root, `.` and `..` are no names. -/
  name? : Option Bytes
  /-- Whether a slash follows the name: it asks for a directory. -/
  slash : Bool
  deriving DecidableEq, Repr

/-- A piece of a path as a name. -/
def nameOf? (piece : Bytes) : Option Bytes :=
  if piece = [Path.dot] ∨ piece = [Path.dot, Path.dot] then none else some piece

/-- The end of a path from a directory; what comes before its last piece leads to a directory. -/
def ending (t : FileTree) (current : Inode) (path : Bytes) : Except Errno Ending :=
  match pathFault? path with
  | some e => .error e
  | none =>
    let pieces := (Path.pieces path).filter (· ≠ [])
    match t.walk .follow maxLinks (walkStart current path) (pieces.dropLast ++ [[]]) with
    | .ok (.found parent) =>
      .ok ⟨parent, pieces.getLast?.bind nameOf?, path.getLast? = some Path.slash⟩
    | .ok (.absent _ _) => .error .noEntry
    | .error e => .error e

/-- What a name in a directory stands for, if the directory has it. -/
def child? (t : FileTree) (parent : Inode) (name : Bytes) : Except Errno (Option Inode) :=
  match t.node? parent with
  | some (.directory _ entries) =>
    if name.length > maxName then .error .nameTooLong else .ok (Assoc.find? name entries)
  | _ => .error .notDirectory

end Tracepoint.FileTree
