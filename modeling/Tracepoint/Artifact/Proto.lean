import Tracepoint.Artifact.Message
import Tracepoint.Schema.Alignment

/-!
# Protocol definition

The messages as a protocol buffers definition.  The fields of a message are numbered from 1; the
alternatives of the envelope from 3, after the count and the header.
-/

set_option autoImplicit false

namespace Tracepoint.Artifact

/-- A numbered entry of a definition. -/
def protoEntry (indent ty name : String) (tag : Nat) : String :=
  indent ++ ty ++ " " ++ name ++ " = " ++ toString tag ++ ";"

/-- The fields of a message, numbered. -/
def Message.protoFields (m : Message) : List String :=
  (m.fields.zipIdx 1).map fun ((name, ty), tag) => protoEntry "  " ty.protoName name tag

/-- The definition of a message. -/
def Message.protoLines (m : Message) : List String :=
  ["", "message " ++ m.name ++ " \x7b"] ++ m.protoFields ++ ["\x7d"]

/-- The alternatives of the envelope, numbered. -/
def protoAlternatives (alternatives : List Alternative) : List String :=
  (alternatives.zipIdx 3).map fun (a, tag) => protoEntry "    " a.message a.field tag

/-- The lines of the protocol definition of syscalls. -/
def protoLines (syscalls : List (Syscall WireType)) : List String :=
  banner ++ ["", "syntax = \"proto3\";", "", "package tracewell;"] ++
  (Message.all syscalls).flatMap Message.protoLines ++
  [ "",
    "service MetricCollector \x7b",
    "  rpc Process (stream Metric) returns (Empty) \x7b\x7d",
    "\x7d",
    "",
    "message Empty \x7b\x7d",
    "",
    "message Metric \x7b",
    protoEntry "  " "uint64" "count" 1,
    protoEntry "  " Message.commonEvent.name "common_event" 2,
    "  oneof event \x7b"] ++
  protoAlternatives (Alternative.all syscalls) ++
  ["  \x7d", "\x7d"]

/-- The protocol definition of aligned schemas. -/
def protoSource (schemas : Schemas) : Except AlignmentError String :=
  match schemas.checkAligned with
  | .error e => .error e
  | .ok () => .ok (unlines (protoLines schemas.wire))

end Tracepoint.Artifact
