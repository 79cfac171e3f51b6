import Tracepoint.Artifact.Message
import Tracepoint.Schema.Alignment

/-!
# Wire source

The messages as Rust types for the decoder, with the envelope around them.
-/

set_option autoImplicit false

namespace Tracepoint.Artifact

/-- The Rust type of a message field. -/
def rustWireType : WireType → String
  | .bytes => "Vec<u8>"
  | .string => "String"
  | .int32 => "i32"
  | .uint32 => "u32"
  | .int64 => "i64"
  | .uint64 => "u64"

/-- The struct of a message. -/
def Message.rustLines (m : Message) : List String :=
  [ "",
    "#[derive(Clone, Debug, Default, PartialEq, Eq)]",
    "pub struct " ++ m.name ++ " \x7b"] ++
  m.fields.map (fun (name, ty) =>
    "    pub " ++ rustField name ++ ": " ++ rustWireType ty ++ ",") ++
  ["\x7d"]

/-- The variants of the envelope. -/
def rustVariants (alternatives : List Alternative) : List String :=
  alternatives.map fun a => "        " ++ a.variant ++ "(" ++ a.message ++ "),"

/-- The lines of the wire source of syscalls. -/
def wireLines (syscalls : List (Syscall WireType)) : List String :=
  banner ++
  (Message.all syscalls).flatMap Message.rustLines ++
  [ "",
    "/// Envelope shipped to collectors, one per decoded event.",
    "#[derive(Clone, Debug, Default, PartialEq, Eq)]",
    "pub struct Metric \x7b",
    "    pub count: u64,",
    "    pub common_event: Option<" ++ Message.commonEvent.name ++ ">,",
    "    pub event: Option<metric::Event>,",
    "\x7d",
    "",
    "pub mod metric \x7b",
    "    use super::*;",
    "",
    "    #[derive(Clone, Debug, PartialEq, Eq)]",
    "    pub enum Event \x7b"] ++
  rustVariants (Alternative.all syscalls) ++
  ["    \x7d", "\x7d"]

/-- The wire source of aligned schemas. -/
def wireSource (schemas : Schemas) : Except AlignmentError String :=
  match schemas.checkAligned with
  | .error e => .error e
  | .ok () => .ok (unlines (wireLines schemas.wire))

end Tracepoint.Artifact
