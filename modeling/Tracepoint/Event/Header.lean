import Tracepoint.Event.Error
import Tracepoint.Record.LittleEndian
import Tracepoint.Text.Utf8

/-!
# The common header

Every captured buffer starts with 88 bytes: the time, the process, the value that the syscall
returned, and the name of the event in a field of 64 bytes that is filled up with NUL bytes.
-/

set_option autoImplicit false

namespace Tracepoint

/-- The header of a captured buffer. -/
structure Header where
  /-- Monotonic clock, in nanoseconds. -/
  timestamp : UInt64
  pid : Int64
  ret : Int64
  name : String
  deriving DecidableEq, Repr

namespace Header

/-- Bytes of the name field. -/
def nameSize : Nat := 64

/-- Bytes of a header. -/
def size : Nat := 24 + nameSize

/-- The name field: the bytes of the name, cut so that a NUL byte stays at the end. -/
def nameField (name : String) : Bytes :=
  Bytes.padded nameSize ((Text.toBytes name).take (nameSize - 1))

/-- The bytes of a name that its field keeps: those before the first NUL byte. -/
def nameBytes (name : String) : Bytes :=
  (nameField name).untilNul

/-- The bytes in front of the name field. -/
def encodeNumbers (timestamp : UInt64) (pid ret : Int64) : Bytes :=
  LittleEndian.ofNat 8 timestamp.toNat ++ LittleEndian.ofNat 8 pid.toUInt64.toNat ++
    LittleEndian.ofNat 8 ret.toUInt64.toNat

/-- The bytes of a header. -/
def encode (header : Header) : Bytes :=
  encodeNumbers header.timestamp header.pid header.ret ++ nameField header.name

/-- The header at the front of a buffer, and the bytes after it.  The name ends at its first NUL
byte; a name that is no text becomes one that no event has. -/
def decode (buffer : Bytes) : Except DecodeError (Header × Bytes) :=
  if buffer.length < size then .error (.truncatedHeader buffer.length)
  else
    let (timestamp, rest) := buffer.read64
    let (pid, rest) := rest.readSigned64
    let (ret, rest) := rest.readSigned64
    let (name, rest) := rest.readBlock nameSize
    .ok (⟨timestamp, pid, ret, Text.ofBytes name.untilNul⟩, rest)

/-- The process, as descriptors are filed under it. -/
def process (header : Header) : UInt32 :=
  header.pid.toUInt64.toUInt32

end Header

end Tracepoint
