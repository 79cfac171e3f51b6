import Tracepoint.Artifact.Source
import Tracepoint.Schema.Basic

/-!
# Wire messages

The messages that travel to collectors: three that exist whatever is traced, and one per syscall.
An event travels in an envelope with one alternative per message that is an event.
-/

set_option autoImplicit false

namespace Tracepoint.Artifact

/-- A message: its name, and its fields in order. -/
structure Message where
  name : String
  fields : List (String × WireType)
  deriving DecidableEq, Repr

namespace Message

/-- The header of an event.  Collectors fill in the last two fields to aggregate by. -/
def commonEvent : Message :=
  ⟨"ProtobufCommonEvent", [("timestamp", .uint64), ("pid", .int64), ("ret", .int64),
    ("name", .string), ("hash", .uint64), ("flags", .uint64)]⟩

/-- A connection between IPv4 addresses. -/
def connectionV4 : Message :=
  ⟨"ProtobufConnectV4Event", [("saddr", .uint32), ("daddr", .uint32), ("sport", .uint32),
    ("dport", .uint32), ("netns", .uint32)]⟩

/-- A connection between IPv6 addresses. -/
def connectionV6 : Message :=
  ⟨"ProtobufConnectV6Event", [("saddr", .string), ("daddr", .string), ("sport", .uint32),
    ("dport", .uint32), ("netns", .uint32)]⟩

/-- The message of a syscall. -/
def ofSyscall (s : Syscall WireType) : Message :=
  ⟨s.typeName, s.params.map fun p => (p.name, p.ty)⟩

/-- All messages where the given syscalls are traced. -/
def all (syscalls : List (Syscall WireType)) : List Message :=
  [commonEvent, connectionV4, connectionV6] ++ syscalls.map ofSyscall

end Message

/-- An alternative of the envelope. -/
structure Alternative where
  /-- Name of the field in the protocol definition. -/
  field : String
  /-- Name of the variant in the decoder's types. -/
  variant : String
  /-- Name of the message that it carries. -/
  message : String
  deriving DecidableEq, Repr

namespace Alternative

/-- The alternative of a syscall. -/
def ofSyscall (s : Syscall WireType) : Alternative :=
  ⟨s.name ++ "_event", s.label ++ "Event", s.typeName⟩

/-- The alternatives in order: connections first, then syscalls. -/
def all (syscalls : List (Syscall WireType)) : List Alternative :=
  [⟨"connect_v4_event", "ConnectV4Event", Message.connectionV4.name⟩,
    ⟨"connect_v6_event", "ConnectV6Event", Message.connectionV6.name⟩] ++
  syscalls.map ofSyscall

end Alternative

end Tracepoint.Artifact
