/-!
# Byte strings

Byte strings are lists of bytes.  Two cuts say which bytes of a fixed-size buffer mean something:
those before the first NUL byte, or those that a transfer reported as done.
-/

set_option autoImplicit false

namespace Tracepoint

/-- A byte string. -/
abbrev Bytes := List UInt8

namespace Bytes

/-- The bytes before the first NUL byte, or all of them. -/
def untilNul (buffer : Bytes) : Bytes :=
  buffer.takeWhile (· ≠ 0)

/-- The bytes that a transfer returning `ret` moved: none if it failed, and never more than the
buffer holds. -/
def transferred (buffer : Bytes) (ret : Int64) : Bytes :=
  buffer.take ret.toInt.toNat

/-- Exactly `size` bytes: the given ones, cut or filled up with NUL bytes. -/
def padded (size : Nat) (content : Bytes) : Bytes :=
  content.take size ++ List.replicate (size - content.length) 0

end Bytes

end Tracepoint
