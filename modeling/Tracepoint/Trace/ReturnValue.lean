/-!
# Return values

The text of a value that a syscall returned says what the value means for that syscall: a
descriptor, a count of bytes, success, or an error.
-/

set_option autoImplicit false

namespace Tracepoint.Trace

/-- What the value that a syscall returns stands for. -/
inductive ReturnKind where
  /-- A descriptor, unless it is negative. -/
  | descriptor
  /-- A count of bytes, unless it is negative. -/
  | byteCount
  /-- Zero on success. -/
  | status
  /-- A plain number, unless it is negative. -/
  | number
  deriving DecidableEq, Repr

namespace ReturnKind

/-- The syscalls that return zero on success. -/
def statusSyscalls : List String := [
  "close", "mkdir", "mkdirat", "chmod", "fchmod", "fchmodat", "chown", "fchown", "fchownat"]

/-- What the named syscall returns. -/
def ofSyscall (name : String) : ReturnKind :=
  if name = "open" then .descriptor
  else if name = "read" ∨ name = "write" then .byteCount
  else if name ∈ statusSyscalls then .status
  else .number

/-- What is said about a value; nothing of a plain number. -/
def remark (kind : ReturnKind) (ret : Int) : String :=
  match kind with
  | .descriptor => if 0 ≤ ret then " (fd)" else " (error)"
  | .byteCount => if 0 ≤ ret then " (bytes)" else " (error)"
  | .status => if ret = 0 then " (success)" else " (error)"
  | .number => if 0 ≤ ret then "" else " (error)"

end ReturnKind

/-- The text of the value that the named syscall returned. -/
def returnText (syscall : String) (ret : Int64) : String :=
  toString ret.toInt ++ (ReturnKind.ofSyscall syscall).remark ret.toInt

end Tracepoint.Trace
