import Tracepoint.Bytes

/-!
# Little-endian numbers

A number of a fixed count of bytes, least significant byte first, and the fixed-width reads from
the front of a byte string that records are taken apart with.
-/

set_option autoImplicit false

namespace Tracepoint

namespace LittleEndian

/-- How many numbers `width` bytes can spell. -/
def capacity : Nat → Nat
  | 0 => 1
  | width + 1 => 256 * capacity width

/-- The lowest `width` bytes of a number. -/
def ofNat : Nat → Nat → Bytes
  | 0, _ => []
  | width + 1, n => UInt8.ofNat (n % 256) :: ofNat width (n / 256)

/-- The number that the bytes spell. -/
def toNat : Bytes → Nat
  | [] => 0
  | b :: bs => b.toNat + 256 * toNat bs

end LittleEndian

/-! ## Reads

Each read yields its value and the bytes after it.  Missing bytes count as zero; callers check
the length of a record before its first read. -/

namespace Bytes

/-- An unsigned number of 16 bits. -/
def read16 (bytes : Bytes) : UInt16 × Bytes :=
  (UInt16.ofNat (LittleEndian.toNat (bytes.take 2)), bytes.drop 2)

/-- An unsigned number of 32 bits. -/
def read32 (bytes : Bytes) : UInt32 × Bytes :=
  (UInt32.ofNat (LittleEndian.toNat (bytes.take 4)), bytes.drop 4)

/-- An unsigned number of 64 bits. -/
def read64 (bytes : Bytes) : UInt64 × Bytes :=
  (UInt64.ofNat (LittleEndian.toNat (bytes.take 8)), bytes.drop 8)

/-- A signed number of 64 bits, in two's complement. -/
def readSigned64 (bytes : Bytes) : Int64 × Bytes :=
  let (word, rest) := bytes.read64
  (word.toInt64, rest)

/-- The first `size` bytes. -/
def readBlock (size : Nat) (bytes : Bytes) : Bytes × Bytes :=
  (bytes.take size, bytes.drop size)

end Bytes

end Tracepoint
