import Mathlib
import Tracepoint.Proofs.Event.Framing

/-!
# Decoding never reads past the end

The reads of the decoders count missing bytes as zero.  This file decodes again with reads that
fail instead, and proves that none of them ever does: every decoder checks the length of its
payload before it reads, and reads no more than it checked.

* `Layout.read?_eq` — a record that is long enough is read without failing;
* `decodeBuffer?_eq` — decoding with reads that fail is decoding.
-/

set_option autoImplicit false

namespace Tracepoint

/-! ## Reads that fail -/

/-- A read of `size` bytes that fails if some are missing. -/
def Bytes.strictly {α : Type} (size : Nat) (read : Bytes → α × Bytes) (bytes : Bytes) :
    Option (α × Bytes) :=
  if bytes.length < size then none else some (read bytes)

theorem Bytes.strictly_eq {α : Type} {size : Nat} {read : Bytes → α × Bytes} {bytes : Bytes}
    (h : size ≤ bytes.length) : strictly size read bytes = some (read bytes) :=
  if_neg (Nat.not_lt.mpr h)

theorem Bytes.strictly_bind {α β : Type} {size : Nat} {read : Bytes → α × Bytes} {bytes : Bytes}
    {next : α × Bytes → Option β} (h : size ≤ bytes.length) :
    (strictly size read bytes >>= next) = next (read bytes) := by
  rw [strictly_eq h]
  rfl

open Bytes (strictly strictly_bind)

/-- The field values of the record at the front, or a failure if some field is cut off. -/
def Layout.read? : Layout → Bytes → Option (List Value × Bytes)
  | [], bytes => some ([], bytes)
  | s :: layout, bytes => do
    let (value, rest) ← strictly s.size s.read bytes
    let (values, rest) ← read? layout rest
    return (value :: values, rest)

theorem Layout.read?_eq {layout : Layout} {bytes : Bytes} (h : layout.size ≤ bytes.length) :
    layout.read? bytes = some (layout.read bytes) := by
  induction layout generalizing bytes with
  | nil => rfl
  | cons s layout ih =>
    rw [size] at h
    have hrest : size layout ≤ (s.read bytes).2.length := by
      simp only [Storage.read, List.length_drop]
      omega
    rw [read?, strictly_bind (by omega)]
    simp only [ih hrest]
    rfl

/-! ## Decoders with reads that fail -/

/-- The header at the front of a buffer. -/
def Header.decode? (buffer : Bytes) : Option (Except DecodeError (Header × Bytes)) :=
  if buffer.length < size then some (.error (.truncatedHeader buffer.length))
  else do
    let (timestamp, rest) ← strictly 8 Bytes.read64 buffer
    let (pid, rest) ← strictly 8 Bytes.readSigned64 rest
    let (ret, rest) ← strictly 8 Bytes.readSigned64 rest
    let (name, rest) ← strictly nameSize (Bytes.readBlock nameSize) rest
    return .ok (⟨timestamp, pid, ret, Text.ofBytes name.untilNul⟩, rest)

/-- The syscall in a payload, and the bytes after it. -/
def SyscallEvent.decode? (s : Surroundings) (t : Table) (pid : Pid)
    (syscall : Syscall DecoderType) (payload : Bytes) : Option (Outcome SyscallEvent × Bytes) := do
  let (values, rest) ← syscall.layout.read? payload
  let resolved := resolveArgs s pid t (syscall.params.zip values)
  return (resolved.andThen fun args t => settle pid ⟨syscall, args⟩ t, rest)

/-- The installed descriptor in a payload, and the bytes after it. -/
def InstallEvent.decode? (s : Surroundings) (t : Table) (pid : Pid) (payload : Bytes) :
    Option (Outcome InstallEvent × Bytes) := do
  let (fd, rest) ← strictly 8 Bytes.read64 payload
  let (ino, rest) ← strictly 8 Bytes.read64 rest
  let (major, rest) ← strictly 8 Bytes.read64 rest
  let (minor, rest) ← strictly 8 Bytes.read64 rest
  let identity : Identity := ⟨ino, major, minor⟩
  let installed := Tracker.install s.procfs t pid fd.toUInt32 identity
  return (installed.map fun installed => ⟨fd, identity, installed.text⟩, rest)

namespace Connection

/-- The ports and the network namespace after the addresses of a connection, and what follows. -/
def decodePorts? {α : Type} (stage : Stage) (source destination : α) (rest : Bytes) :
    Option (Connection α × Bytes) := do
  let (sourcePort, rest) ← strictly 2 Bytes.read16 rest
  let (destinationPort, rest) ← strictly 2 Bytes.read16 rest
  let (netns, rest) ← strictly 4 Bytes.read32 rest
  return ({ stage, source, destination, sourcePort, destinationPort, netns }, rest)

/-- The IPv4 connection in a payload, and the bytes after it. -/
def decodeV4? (stage : Stage) (payload : Bytes) : Option (Connection Ipv4 × Bytes) := do
  let (source, rest) ← strictly 4 Bytes.read32 payload
  let (destination, rest) ← strictly 4 Bytes.read32 rest
  decodePorts? stage ⟨source⟩ ⟨destination⟩ rest

/-- The IPv6 connection in a payload, and the bytes after it. -/
def decodeV6? (stage : Stage) (payload : Bytes) : Option (Connection Ipv6 × Bytes) := do
  let (source, rest) ← strictly 16 (Bytes.readBlock 16) payload
  let (destination, rest) ← strictly 16 (Bytes.readBlock 16) rest
  decodePorts? stage ⟨source⟩ ⟨destination⟩ rest

end Connection

namespace Event

/-- The event of a kind in a payload, and the bytes after it. -/
def decodeKind? (s : Surroundings) (t : Table) (pid : Pid) (payload : Bytes) :
    Kind → Option (Outcome Event × Bytes)
  | .syscall call => do
    let (outcome, rest) ← SyscallEvent.decode? s t pid call payload
    return (outcome.map .syscall, rest)
  | .install => do
    let (outcome, rest) ← InstallEvent.decode? s t pid payload
    return (outcome.map .install, rest)
  | .connectionV4 stage => do
    let (connection, rest) ← Connection.decodeV4? stage payload
    return (Outcome.pure t (.connectionV4 connection), rest)
  | .connectionV6 stage => do
    let (connection, rest) ← Connection.decodeV6? stage payload
    return (Outcome.pure t (.connectionV6 connection), rest)

/-- The event that `header` announces, and the bytes after it. -/
def decode? (s : Surroundings) (t : Table) (header : Header) (payload : Bytes) :
    Option (Outcome (Except DecodeError Event) × Bytes) :=
  match Kind.ofName? header.name with
  | none =>
    let line : LogLine :=
      ⟨.trace, "No decoder for " ++ Text.Quoted.quote header.name ++ " events"⟩
    some (⟨.ok .unknown, t, [], [line]⟩, payload)
  | some kind =>
    match ensurePayload kind.name kind.payloadSize payload.length with
    | .error e => some (Outcome.pure t (.error e), payload)
    | .ok () => do
      let (outcome, rest) ← decodeKind? s t header.process payload kind
      return (outcome.map .ok, rest)

end Event

/-- The event in a captured buffer. -/
def decodeBuffer? (s : Surroundings) (t : Table) (buffer : Bytes) :
    Option (Outcome (Except DecodeError DecodedEvent)) := do
  match ← Header.decode? buffer with
  | .error e => return Outcome.pure t (.error e)
  | .ok (header, payload) =>
    let (outcome, _) ← Event.decode? s t header payload
    return outcome.map (Except.map (⟨header, ·⟩))

/-! ## No read fails -/

theorem Header.decode?_eq (buffer : Bytes) : decode? buffer = some (decode buffer) := by
  unfold decode? decode
  split_ifs with hlen
  · rfl
  · rw [size, nameSize] at hlen
    simp (disch := grind [nameSize]) only [strictly_bind, Bytes.read64, Bytes.readSigned64,
      Bytes.readBlock]
    rfl

theorem SyscallEvent.decode?_eq (s : Surroundings) (t : Table) (pid : Pid)
    {syscall : Syscall DecoderType} {payload : Bytes}
    (h : syscall.layout.size ≤ payload.length) :
    decode? s t pid syscall payload = some (decode s t pid syscall payload) := by
  rw [decode?, Layout.read?_eq h]
  rfl

theorem InstallEvent.decode?_eq (s : Surroundings) (t : Table) (pid : Pid) {payload : Bytes}
    (h : 32 ≤ payload.length) :
    decode? s t pid payload = some (decode s t pid payload) := by
  unfold decode? decode
  simp (disch := grind) only [strictly_bind, Bytes.read64]
  rfl

namespace Connection

theorem decodePorts?_eq {α : Type} (stage : Stage) (source destination : α) {rest : Bytes}
    (h : 8 ≤ rest.length) :
    decodePorts? stage source destination rest =
      some (decodePorts stage source destination rest) := by
  unfold decodePorts? decodePorts
  simp (disch := grind) only [strictly_bind, Bytes.read16, Bytes.read32]
  rfl

theorem decodeV4?_eq (stage : Stage) {payload : Bytes} (h : 16 ≤ payload.length) :
    decodeV4? stage payload = some (decodeV4 stage payload) := by
  unfold decodeV4? decodeV4
  simp (disch := grind) only [strictly_bind, Bytes.read32, decodePorts?_eq]

theorem decodeV6?_eq (stage : Stage) {payload : Bytes} (h : 40 ≤ payload.length) :
    decodeV6? stage payload = some (decodeV6 stage payload) := by
  unfold decodeV6? decodeV6
  simp (disch := grind) only [strictly_bind, Bytes.readBlock, decodePorts?_eq]

end Connection

/-- **A payload of the size of its kind is read to the end of its fields.** -/
theorem Event.decodeKind?_eq (s : Surroundings) (t : Table) (pid : Pid) {kind : Kind}
    {payload : Bytes} (h : kind.payloadSize ≤ payload.length) :
    decodeKind? s t pid payload kind = some (decodeKind s t pid payload kind) := by
  cases kind with
  | syscall call => rw [decodeKind?, SyscallEvent.decode?_eq s t pid h]; rfl
  | install => rw [decodeKind?, InstallEvent.decode?_eq s t pid h]; rfl
  | connectionV4 stage => rw [decodeKind?, Connection.decodeV4?_eq stage h]; rfl
  | connectionV6 stage => rw [decodeKind?, Connection.decodeV6?_eq stage h]; rfl

theorem Event.decode?_eq (s : Surroundings) (t : Table) (header : Header) (payload : Bytes) :
    decode? s t header payload = some (decode s t header payload) := by
  unfold decode? decode ensurePayload
  cases Kind.ofName? header.name with
  | none => rfl
  | some kind =>
    simp only
    split_ifs with hlen
    · rfl
    · simp only [decodeKind?_eq s t header.process (Nat.not_lt.mp hlen)]
      rfl

/-- **No read fails**: decoding with reads that fail on missing bytes is decoding. -/
theorem decodeBuffer?_eq (s : Surroundings) (t : Table) (buffer : Bytes) :
    decodeBuffer? s t buffer = some (decodeBuffer s t buffer) := by
  unfold decodeBuffer? decodeBuffer
  rw [Header.decode?_eq]
  cases Header.decode buffer with
  | error e => rfl
  | ok front =>
    obtain ⟨header, payload⟩ := front
    simp only [Option.bind_eq_bind, Option.bind_some, Event.decode?_eq]
    rfl

end Tracepoint
