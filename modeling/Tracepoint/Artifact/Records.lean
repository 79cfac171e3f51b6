import Tracepoint.Artifact.Source
import Tracepoint.Schema.Alignment
import Tracepoint.Text.Quoted

/-!
# Record source

The records as the probe writes them: one packed struct per syscall, the common header first,
then each parameter at its record type.
-/

set_option autoImplicit false

namespace Tracepoint.Artifact

/-- The Rust type of a record field. -/
def rustRecordType : RecordType → String
  | .char => "[u8; MAX_BUFFER_SIZE]"
  | .s32 => "i32"
  | .u32 => "u32"
  | .s64 => "i64"
  | .u64 => "u64"

/-- A packed struct of the record source. -/
structure RecordStruct where
  typeName : String
  /-- The event it is written for. -/
  event : String
  /-- The fields after the header, as they are spelled. -/
  fields : List (String × RecordType)
  /-- Bytes of the fields after the header. -/
  payloadSize : Nat
  deriving DecidableEq, Repr

namespace RecordStruct

/-- The struct of a syscall. -/
def ofSyscall (s : Syscall RecordType) : RecordStruct :=
  { typeName := s.typeName
    event := s.name
    fields := s.params.map fun p => (rustField p.name, p.ty)
    payloadSize := s.recordLayout.size }

/-- The lines of a struct. -/
def lines (r : RecordStruct) : List String :=
  [ "",
    "/// Record written for `" ++ r.event ++ "`.",
    "#[repr(C, packed)]",
    "#[derive(Clone, Copy)]",
    "pub struct " ++ r.typeName ++ " \x7b",
    "    pub common: CommonEvent,"] ++
  r.fields.map (fun (name, ty) => "    pub " ++ name ++ ": " ++ rustRecordType ty ++ ",") ++
  [ "\x7d",
    "",
    "impl " ++ r.typeName ++ " \x7b",
    "    pub const NAME: &'static str = " ++ Text.Quoted.quote r.event ++ ";",
    "    pub const PAYLOAD_SIZE: usize = " ++ toString r.payloadSize ++ ";",
    "\x7d",
    "",
    "const _: () = assert!(",
    "    core::mem::size_of::<" ++ r.typeName ++ ">() == COMMON_EVENT_SIZE + " ++ r.typeName ++
      "::PAYLOAD_SIZE",
    ");"]

end RecordStruct

/-- The lines of the record source of syscalls. -/
def recordLines (syscalls : List (Syscall RecordType)) : List String :=
  banner ++ ["", "pub const GENERATED_BUFFER_SIZE: usize = " ++ toString maxBufferSize ++ ";"] ++
    syscalls.flatMap fun s => (RecordStruct.ofSyscall s).lines

/-- The record source of aligned schemas. -/
def recordSource (schemas : Schemas) : Except AlignmentError String :=
  match schemas.checkAligned with
  | .error e => .error e
  | .ok () => .ok (unlines (recordLines schemas.record))

end Tracepoint.Artifact
