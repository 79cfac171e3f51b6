import Tracepoint.Descriptor.Tracker
import Tracepoint.Event.Basic

/-!
# Decoding captured buffers

A buffer is a header and a payload; the name in the header chooses how the payload is read.  A
payload that is too short is rejected before anything is read or asked.  What is read is taken off
the front of the payload, and what is left is handed on.  Descriptors among the arguments of a
syscall are resolved to paths; an installed descriptor is tracked from then on, and a closed one no
longer.
-/

set_option autoImplicit false

namespace Tracepoint

/-! ## Syscalls -/

/-- The descriptor that a value is, cut to the width of descriptors. -/
def Value.descriptor : Value → Fd
  | .int i => UInt32.ofInt i
  | .bytes _ => 0

namespace SyscallEvent

/-- The arguments with the paths behind descriptors looked up, in order. -/
def resolveArgs (s : Surroundings) (pid : Pid) :
    Table → List (Param DecoderType × Value) → Outcome (List Arg)
  | t, [] => Outcome.pure t []
  | t, (param, value) :: rest =>
    if param.needsPath then
      (Tracker.resolve s t pid value.descriptor).andThen fun resolution t =>
        (resolveArgs s pid t rest).map (⟨param, value, some resolution.text⟩ :: ·)
    else (resolveArgs s pid t rest).map (⟨param, value, none⟩ :: ·)

/-- The descriptor that the syscall closes. -/
def closedDescriptor? (event : SyscallEvent) : Option Fd :=
  if event.syscall.name = "close" then
    (event.args.find? fun arg => arg.param.name = "fd").map fun arg => arg.value.descriptor
  else none

/-- What a decoded syscall does to the table. -/
def settle (pid : Pid) (event : SyscallEvent) (t : Table) : Outcome SyscallEvent :=
  match event.closedDescriptor? with
  | some fd => (Tracker.forget t pid fd).map fun _ => event
  | none => Outcome.pure t event

/-- The syscall in a payload that is long enough, and the bytes after it. -/
def decode (s : Surroundings) (t : Table) (pid : Pid) (syscall : Syscall DecoderType)
    (payload : Bytes) : Outcome SyscallEvent × Bytes :=
  let (values, rest) := syscall.layout.read payload
  let resolved := resolveArgs s pid t (syscall.params.zip values)
  (resolved.andThen fun args t => settle pid ⟨syscall, args⟩ t, rest)

end SyscallEvent

/-! ## Other events -/

/-- The installed descriptor in a payload that is long enough, and the bytes after it. -/
def InstallEvent.decode (s : Surroundings) (t : Table) (pid : Pid) (payload : Bytes) :
    Outcome InstallEvent × Bytes :=
  let (fd, rest) := payload.read64
  let (ino, rest) := rest.read64
  let (major, rest) := rest.read64
  let (minor, rest) := rest.read64
  let identity : Identity := ⟨ino, major, minor⟩
  let installed := Tracker.install s.procfs t pid fd.toUInt32 identity
  (installed.map fun installed => ⟨fd, identity, installed.text⟩, rest)

namespace Connection

/-- The ports and the network namespace after the addresses of a connection, and what follows. -/
def decodePorts {α : Type} (stage : Stage) (source destination : α) (rest : Bytes) :
    Connection α × Bytes :=
  let (sourcePort, rest) := rest.read16
  let (destinationPort, rest) := rest.read16
  let (netns, rest) := rest.read32
  ({ stage, source, destination, sourcePort, destinationPort, netns }, rest)

/-- The IPv4 connection in a payload that is long enough, and the bytes after it. -/
def decodeV4 (stage : Stage) (payload : Bytes) : Connection Ipv4 × Bytes :=
  let (source, rest) := payload.read32
  let (destination, rest) := rest.read32
  decodePorts stage ⟨source⟩ ⟨destination⟩ rest

/-- The IPv6 connection in a payload that is long enough, and the bytes after it. -/
def decodeV6 (stage : Stage) (payload : Bytes) : Connection Ipv6 × Bytes :=
  let (source, rest) := payload.readBlock 16
  let (destination, rest) := rest.readBlock 16
  decodePorts stage ⟨source⟩ ⟨destination⟩ rest

end Connection

/-! ## Any event -/

namespace Event

/-- The event of a kind in a payload that is long enough, and the bytes after it. -/
def decodeKind (s : Surroundings) (t : Table) (pid : Pid) (payload : Bytes) :
    Kind → Outcome Event × Bytes
  | .syscall call =>
    let (outcome, rest) := SyscallEvent.decode s t pid call payload
    (outcome.map .syscall, rest)
  | .install =>
    let (outcome, rest) := InstallEvent.decode s t pid payload
    (outcome.map .install, rest)
  | .connectionV4 stage =>
    let (connection, rest) := Connection.decodeV4 stage payload
    (Outcome.pure t (.connectionV4 connection), rest)
  | .connectionV6 stage =>
    let (connection, rest) := Connection.decodeV6 stage payload
    (Outcome.pure t (.connectionV6 connection), rest)

/-- The event that `header` announces, and the bytes after it.  A payload that is too short stays
as it is, and so does the table. -/
def decode (s : Surroundings) (t : Table) (header : Header) (payload : Bytes) :
    Outcome (Except DecodeError Event) × Bytes :=
  match Kind.ofName? header.name with
  | none =>
    let line : LogLine :=
      ⟨.trace, "No decoder for " ++ Text.Quoted.quote header.name ++ " events"⟩
    (⟨.ok .unknown, t, [], [line]⟩, payload)
  | some kind =>
    match ensurePayload kind.name kind.payloadSize payload.length with
    | .error e => (Outcome.pure t (.error e), payload)
    | .ok () =>
      let (outcome, rest) := decodeKind s t header.process payload kind
      (outcome.map .ok, rest)

end Event

/-- The event in a captured buffer.  Bytes after the payload are ignored. -/
def decodeBuffer (s : Surroundings) (t : Table) (buffer : Bytes) :
    Outcome (Except DecodeError DecodedEvent) :=
  match Header.decode buffer with
  | .error e => Outcome.pure t (.error e)
  | .ok (header, payload) => (Event.decode s t header payload).1.map (Except.map (⟨header, ·⟩))

end Tracepoint
