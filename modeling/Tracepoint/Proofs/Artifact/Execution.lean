import Mathlib
import Tracepoint.Artifact.Decoder
import Tracepoint.Artifact.Records
import Tracepoint.Event.Metric
import Tracepoint.Proofs.Schema.Compiled

/-!
# Running the generated sources

What the generated sources do when they run, as far as a captured buffer and the message made of
it are concerned.  The texts decide: a field of a record has the width that its type has *as it is
spelled*, and an initial reads what the spelled expression reads.

* `RecordStruct.write` — the bytes of a packed record after its header;
* `DecoderTree.run` — the struct that decoding fills, and the bytes it leaves;
* `DecoderTree.exportFields` — the fields of the message, looked up in the struct by name.
-/

set_option autoImplicit false

namespace Tracepoint.Artifact

/-! ## Spelled types and expressions -/

/-- How a field of the spelled type is stored. -/
def storageOfType? : String → Option Storage
  | "[u8; MAX_BUFFER_SIZE]" => some (.block maxBufferSize)
  | "i32" => some (.int 4 true)
  | "u32" => some (.int 4 false)
  | "i64" => some (.int 8 true)
  | "u64" => some (.int 8 false)
  | _ => none

/-- What the spelled expression takes off the front of the payload; `none` if it does not touch
the payload. -/
def storageOfRead? : String → Option Storage
  | "read_buffer(payload)" => some (.block maxBufferSize)
  | "payload.get_i32_ne()" => some (.int 4 true)
  | "payload.get_u32_ne()" => some (.int 4 false)
  | "payload.get_i64_ne()" => some (.int 8 true)
  | "payload.get_u64_ne()" => some (.int 8 false)
  | _ => none

@[simp] theorem storageOfType?_record (ty : RecordType) :
    storageOfType? (rustRecordType ty) = some ty.storage := by
  cases ty <;> rfl

@[simp] theorem storageOfType?_value (ty : DecoderType) :
    storageOfType? (FieldType.value ty).rust = some ty.storage := by
  cases ty <;> rfl

@[simp] theorem storageOfType?_path : storageOfType? FieldType.path.rust = none := rfl

@[simp] theorem storageOfRead?_read (ty : RecordType) :
    storageOfRead? (Initial.read ty).rust = some ty.storage := by
  cases ty <;> rfl

@[simp] theorem storageOfRead?_emptyText : storageOfRead? Initial.emptyText.rust = none := rfl

/-! ## Records -/

namespace RecordStruct

/-- The layout of the fields after the header. -/
def layout (r : RecordStruct) : Layout :=
  r.fields.filterMap fun f => storageOfType? (rustRecordType f.2)

/-- The bytes of a record after its header. -/
def write (r : RecordStruct) (values : List Value) : Bytes :=
  r.layout.encode values

theorem layout_ofSyscall (s : Syscall RecordType) : (ofSyscall s).layout = s.recordLayout := by
  simp [layout, ofSyscall, Syscall.recordLayout, Function.comp_def]

end RecordStruct

/-! ## Decoding -/

/-- What a field of the struct holds. -/
inductive Slot where
  | value (v : Value)
  | path (text : String)
  deriving DecidableEq, Repr

/-- A struct: its fields with what they hold, in order. -/
abbrev Struct := List (String × Slot)

/-- Whether a field of the spelled type can hold it. -/
def FieldType.Admits (ty : FieldType) : Slot → Prop
  | .value v => ∃ s, storageOfType? ty.rust = some s ∧ s.Fits v
  | .path _ => ty = .path

namespace DecoderTree

/-- Carries out the initials in order: the struct, and the bytes that are left. -/
def fill : List (String × Initial) → Bytes → Struct × Bytes
  | [], payload => ([], payload)
  | (name, initial) :: initials, payload =>
    match storageOfRead? initial.rust with
    | some s =>
      let (v, payload) := s.read payload
      let (filled, left) := fill initials payload
      ((name, .value v) :: filled, left)
    | none =>
      let (filled, left) := fill initials payload
      ((name, .path "") :: filled, left)

/-- The decoding function: a payload that is too short is rejected before anything is read. -/
def run (t : DecoderTree) (payload : Bytes) : Option (Struct × Bytes) :=
  if payload.length < t.payloadSize then none else some (fill t.initials payload)

/-- The fields that were read off the payload, in order. -/
def readFields (struct : Struct) : List (String × Value) :=
  struct.filterMap fun
    | (name, .value v) => some (name, v)
    | (_, .path _) => none

end DecoderTree

/-! ## Messages -/

namespace Export

/-- The field that is exported, and the field of the message that it goes into. -/
def field : Export → String
  | .copied field => field
  | .converted field => field

/-- What an export makes of a value: buffers are copied whole, numbers converted. -/
def ofValue? : Export → Value → Option WireValue
  | .copied _, .bytes b => some (.bytes b)
  | .converted _, .int i => some (.int i)
  | _, _ => none

/-- What an export makes of what a field holds. -/
def ofSlot? (e : Export) : Slot → Option WireValue
  | .value v => e.ofValue? v
  | .path _ => none

end Export

/-- The fields of the message that exports build from a struct, each looked up by its name. -/
def DecoderTree.exportFields (struct : Struct) : List Export → Option (List (String × WireValue))
  | [] => some []
  | e :: exports => do
    let slot ← struct.lookup e.field
    let wire ← e.ofSlot? slot
    let fields ← exportFields struct exports
    return (e.field, wire) :: fields

end Tracepoint.Artifact

namespace Tracepoint

/-- Whether a message field of the type can carry a value. -/
def WireType.Holds : WireType → WireValue → Prop
  | .bytes, .bytes _ => True
  | .string, .text _ => True
  | .int32, .int i => (Storage.int 4 true).Fits (.int i)
  | .uint32, .int i => (Storage.int 4 false).Fits (.int i)
  | .int64, .int i => (Storage.int 8 true).Fits (.int i)
  | .uint64, .int i => (Storage.int 8 false).Fits (.int i)
  | _, _ => False

/-- Every value of a decoded type has room in the wire type that carries it. -/
theorem DecoderType.carried_holds {ty : DecoderType} {v : Value} (h : ty.storage.Fits v) :
    ty.carried.Holds v.wire := by
  cases ty <;> cases v <;> first | exact h | trivial

end Tracepoint
