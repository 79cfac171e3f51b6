import Tracepoint.Bytes

/-!
# Paths

A path is a byte string; slashes part its components.  Empty components and `.` mean nothing, save
that a slash in front makes the path absolute and a `.` in front of a relative path stays visible.
-/

set_option autoImplicit false

namespace Tracepoint.Path

/-- The byte that parts components. -/
def slash : UInt8 := 0x2F

/-- The byte that special components are made of. -/
def dot : UInt8 := 0x2E

/-- Whether a path starts at the root. -/
def isAbsolute (path : Bytes) : Bool :=
  path.head? = some slash

/-! ## Components -/

/-- A component of a path. -/
inductive Component where
  | root
  /-- The directory itself, in front of a relative path. -/
  | here
  /-- The parent directory. -/
  | up
  | name (bytes : Bytes)
  deriving DecidableEq, Repr

/-- The pieces between slashes. -/
def pieces : Bytes → List Bytes
  | [] => [[]]
  | b :: bs =>
    if b = slash then [] :: pieces bs
    else
      match pieces bs with
      | [] => [[b]]
      | p :: ps => (b :: p) :: ps

/-- The component that a piece is, unless it means nothing. -/
def Component.ofPiece? (piece : Bytes) : Option Component :=
  if piece = [] ∨ piece = [dot] then none
  else if piece = [dot, dot] then some .up
  else some (.name piece)

/-- What stands before the named components. -/
def front (path : Bytes) : List Component :=
  if isAbsolute path then [.root]
  else if (pieces path).head? = some [dot] then [.here]
  else []

/-- The components of a path. -/
def components (path : Bytes) : List Component :=
  front path ++ (pieces path).filterMap Component.ofPiece?

/-- Whether two paths have the same components. -/
def same (p q : Bytes) : Bool :=
  components p = components q

/-! ## Below another path -/

/-- A path without the slashes and the `.` components at its front. -/
def trimFront : Bytes → Bytes
  | [] => []
  | b :: bs =>
    if b = slash then trimFront bs
    else if b = dot ∧ (bs = [] ∨ bs.head? = some slash) then trimFront bs
    else b :: bs

/-- A path without the slashes and the `.` components at its end. -/
def trimBack (path : Bytes) : Bytes :=
  (trimFront path.reverse).reverse

/-- An absolute path as seen from the root; any other path as it is. -/
def belowRoot (path : Bytes) : Bytes :=
  if isAbsolute path then trimBack (trimFront path) else path

/-- `path` as seen from `base`: an absolute path stays what it is. -/
def join (base path : Bytes) : Bytes :=
  if isAbsolute path then path
  else if base = [] ∨ base.getLast? = some slash then base ++ path
  else base ++ slash :: path

end Tracepoint.Path
