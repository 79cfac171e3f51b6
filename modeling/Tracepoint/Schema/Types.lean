import Tracepoint.Record.Layout

/-!
# Field types

A syscall argument has three types: the one it is decoded to, the one the probe writes it as and
the one it travels as.  Three tables assign them: kernel type to decoded type, kernel type to
record type, and decoded type to wire type.
-/

set_option autoImplicit false

namespace Tracepoint

/-- Bytes that the probe copies out of a string argument. -/
def maxBufferSize : Nat := 256

/-- The type a field is decoded to. -/
inductive DecoderType where
  | buffer
  | i32
  | u32
  | i64
  | u64
  deriving DecidableEq, Repr

/-- The type of a field in the record that the probe writes. -/
inductive RecordType where
  | char
  | s32
  | u32
  | s64
  | u64
  deriving DecidableEq, Repr

/-- The type of a field in the wire message. -/
inductive WireType where
  | bytes
  | string
  | int32
  | uint32
  | int64
  | uint64
  deriving DecidableEq, Repr

/-! ## Widths and signs -/

namespace DecoderType

/-- How a decoded field lies in a captured buffer. -/
def storage : DecoderType → Storage
  | .buffer => .block maxBufferSize
  | .i32 => .int 4 true
  | .u32 => .int 4 false
  | .i64 => .int 8 true
  | .u64 => .int 8 false

/-- Bytes that a decoded field takes in a captured buffer. -/
def size (ty : DecoderType) : Nat :=
  ty.storage.size

/-- Whether the type holds negative numbers. -/
def isSigned : DecoderType → Bool
  | .i32 | .i64 => true
  | _ => false

/-- Whether the type is a byte buffer. -/
def isBuffer : DecoderType → Bool
  | .buffer => true
  | _ => false

/-- The name by which messages speak of a type. -/
def name : DecoderType → String
  | .buffer => "Buffer"
  | .i32 => "I32"
  | .u32 => "U32"
  | .i64 => "I64"
  | .u64 => "U64"

end DecoderType

namespace RecordType

/-- How the probe writes a field. -/
def storage : RecordType → Storage
  | .char => .block maxBufferSize
  | .s32 => .int 4 true
  | .u32 => .int 4 false
  | .s64 => .int 8 true
  | .u64 => .int 8 false

/-- Bytes that a field takes in a record. -/
def size (ty : RecordType) : Nat :=
  ty.storage.size

/-- Whether the type holds negative numbers. -/
def isSigned : RecordType → Bool
  | .s32 | .s64 => true
  | _ => false

/-- Whether the type is a byte buffer. -/
def isBuffer : RecordType → Bool
  | .char => true
  | _ => false

/-- The name by which messages speak of a type. -/
def name : RecordType → String
  | .char => "Char"
  | .s32 => "S32"
  | .u32 => "U32"
  | .s64 => "S64"
  | .u64 => "U64"

end RecordType

namespace WireType

/-- The most bytes that a value of the type carries, if there is a limit. -/
def size? : WireType → Option Nat
  | .bytes | .string => none
  | .int32 | .uint32 => some 4
  | .int64 | .uint64 => some 8

/-- Whether the type holds negative numbers. -/
def isSigned : WireType → Bool
  | .int32 | .int64 => true
  | _ => false

/-- The name by which messages speak of a type. -/
def name : WireType → String
  | .bytes => "Bytes"
  | .string => "String"
  | .int32 => "Int32"
  | .uint32 => "Uint32"
  | .int64 => "Int64"
  | .uint64 => "Uint64"

/-- The name of the type in a protocol definition. -/
def protoName : WireType → String
  | .bytes => "bytes"
  | .string => "string"
  | .int32 => "int32"
  | .uint32 => "uint32"
  | .int64 => "int64"
  | .uint64 => "uint64"

end WireType

/-! ## Tables -/

/-- The decoded type of each kernel type.  Addresses behind which the probe does not look are plain
numbers. -/
def decoderTypes : List (String × DecoderType) := [
  ("char *", .buffer),
  ("const char *", .buffer),
  ("unsigned char *", .buffer),
  ("int", .i64),
  ("long", .i64),
  ("pid_t", .i64),
  ("off_t", .i64),
  ("loff_t", .i64),
  ("key_t", .i64),
  ("mqd_t", .i64),
  ("timer_t", .i64),
  ("size_t", .i64),
  ("unsigned int", .u64),
  ("unsigned", .u64),
  ("unsigned long", .u64),
  ("umode_t", .u64),
  ("u64", .u64),
  ("__u64", .u64),
  ("aio_context_t", .u64),
  ("uid_t", .u32),
  ("gid_t", .u32),
  ("qid_t", .u32),
  ("u32", .u32),
  ("const clockid_t", .u32),
  ("__s32", .i32),
  ("key_serial_t", .i32),
  ("int *", .u64),
  ("const int *", .u64),
  ("size_t *", .u64),
  ("loff_t *", .u64),
  ("unsigned *", .u64),
  ("unsigned int *", .u64),
  ("unsigned long *", .u64),
  ("const unsigned long *", .u64),
  ("u32 *", .u64),
  ("uid_t *", .u64),
  ("gid_t *", .u64),
  ("timer_t *", .u64),
  ("time_t *", .u64),
  ("aio_context_t *", .u64),
  ("void *", .u64),
  ("const void *", .u64)]

/-- The record type of each kernel type. -/
def recordTypes : List (String × RecordType) := [
  ("char *", .char),
  ("const char *", .char),
  ("unsigned char *", .char),
  ("int", .s64),
  ("long", .s64),
  ("pid_t", .s64),
  ("off_t", .s64),
  ("loff_t", .s64),
  ("key_t", .s64),
  ("mqd_t", .s64),
  ("timer_t", .s64),
  ("size_t", .s64),
  ("unsigned int", .u64),
  ("unsigned", .u64),
  ("unsigned long", .u64),
  ("umode_t", .u64),
  ("u64", .u64),
  ("__u64", .u64),
  ("aio_context_t", .u64),
  ("uid_t", .u32),
  ("gid_t", .u32),
  ("qid_t", .u32),
  ("u32", .u32),
  ("const clockid_t", .u32),
  ("__s32", .s32),
  ("key_serial_t", .s32),
  ("int *", .u64),
  ("const int *", .u64),
  ("size_t *", .u64),
  ("loff_t *", .u64),
  ("unsigned *", .u64),
  ("unsigned int *", .u64),
  ("unsigned long *", .u64),
  ("const unsigned long *", .u64),
  ("u32 *", .u64),
  ("uid_t *", .u64),
  ("gid_t *", .u64),
  ("timer_t *", .u64),
  ("time_t *", .u64),
  ("aio_context_t *", .u64),
  ("void *", .u64),
  ("const void *", .u64)]

/-- The wire type of each decoded type. -/
def wireTypes : List (DecoderType × WireType) := [
  (.buffer, .bytes),
  (.i32, .int32),
  (.u32, .uint32),
  (.i64, .int64),
  (.u64, .uint64)]

/-- The decoded type of a kernel type. -/
def decoderType? (kernelType : String) : Option DecoderType :=
  decoderTypes.lookup kernelType

/-- The record type of a kernel type. -/
def recordType? (kernelType : String) : Option RecordType :=
  recordTypes.lookup kernelType

/-- The wire type of a decoded type. -/
def wireType? (ty : DecoderType) : Option WireType :=
  wireTypes.lookup ty

end Tracepoint
