import Mathlib
import Tracepoint.Event.Capture
import Tracepoint.Event.Decode
import Tracepoint.Proofs.Record.RoundTrip

/-!
# The fields of headers and events

A decoded header and a decoded event, taken apart again into the fields of a record.  Decoding
reads these fields in record order, whatever the table holds and whatever is answered.

* `Header.numbers_front` — the numbers of a header are the fields at the front of the buffer;
* `Header.front_record` — a header is read back from its bytes;
* `Event.fields_decodeKind` — the fields of an event are those of the payload, by name;
* `Event.decodeKind_snd` — decoding takes these fields off the payload, and leaves the rest;
* `Header.front_append`, `Event.decodeKind_append` — bytes after them change nothing.
-/

set_option autoImplicit false

namespace Tracepoint

/-! ## Headers -/

namespace Header

/-- The layout of the numbers in front of the name field. -/
def numbersLayout : Layout :=
  [.int 8 false, .int 8 true, .int 8 true]

/-- The numbers of a header, as fields. -/
def numbers (h : Header) : List Value :=
  [.int h.timestamp.toNat, .int h.pid.toInt, .int h.ret.toInt]

/-- What the first bytes of a buffer say if they are a header. -/
def front (buffer : Bytes) : Header :=
  { timestamp := buffer.read64.1
    pid := (Bytes.readSigned64 (buffer.drop 8)).1
    ret := (Bytes.readSigned64 (buffer.drop 16)).1
    name := Text.ofBytes (Bytes.untilNul ((buffer.drop 24).take nameSize)) }

theorem decode_eq (buffer : Bytes) :
    decode buffer =
      if buffer.length < size then .error (.truncatedHeader buffer.length)
      else .ok (front buffer, buffer.drop size) := by
  simp only [decode, front, size, Bytes.read64, Bytes.readSigned64, Bytes.readBlock,
    List.drop_drop]

theorem numbers_front (buffer : Bytes) :
    (front buffer).numbers = (numbersLayout.read buffer).1 := by
  simp only [numbers, front, Bytes.read64_fst, Bytes.readSigned64_fst, numbersLayout, Layout.read,
    Storage.read, Storage.size, List.drop_drop]

theorem numbers_fit (h : Header) : numbersLayout.Fits h.numbers := by
  have hts : (h.timestamp.toNat : Int) < 18446744073709551616 := by
    exact_mod_cast h.timestamp.toNat_lt
  have signed : ∀ i : Int64, (Storage.int 8 true).Fits (.int i.toInt) := fun i => by
    have hlo := i.le_toInt
    have hhi := i.toInt_lt
    simp only [Storage.Fits, LittleEndian.capacity]
    omega
  exact .cons ⟨Int.natCast_nonneg _, hts⟩ (.cons (signed h.pid) (.cons (signed h.ret) .nil))

/-- Two's complement: a signed number is written as the word with the same bits. -/
theorem encode_toInt (i : Int64) :
    (Storage.int 8 true).encode (.int i.toInt) = LittleEndian.ofNat 8 i.toUInt64.toNat := by
  have hbits : i.toInt = Int.bmod i.toUInt64.toNat (2 ^ 64) := by
    rw [← Int64.toInt_toBitVec, BitVec.toInt_eq_toNat_bmod]
    rfl
  have h : (i.toInt % (2 ^ 64 : Nat)).toNat = i.toUInt64.toNat := by
    have hlt := i.toUInt64.toNat_lt
    rw [hbits, Int.bmod_emod]
    omega
  exact congrArg (LittleEndian.ofNat 8) h

theorem encodeNumbers_eq (h : Header) :
    encodeNumbers h.timestamp h.pid h.ret = numbersLayout.encode h.numbers := by
  have hts : (Storage.int 8 false).encode (.int h.timestamp.toNat) =
      LittleEndian.ofNat 8 h.timestamp.toNat := by
    have hlt := h.timestamp.toNat_lt
    have : ((h.timestamp.toNat : Int) % 18446744073709551616).toNat = h.timestamp.toNat := by
      omega
    exact congrArg (LittleEndian.ofNat 8) this
  simp [encodeNumbers, numbersLayout, numbers, Layout.encode, hts, encode_toInt]

theorem numbers_inj {h₁ h₂ : Header} (h : h₁.numbers = h₂.numbers) (hname : h₁.name = h₂.name) :
    h₁ = h₂ := by
  obtain ⟨ts₁, pid₁, ret₁, name₁⟩ := h₁
  obtain ⟨ts₂, pid₂, ret₂, name₂⟩ := h₂
  simp only [numbers, List.cons.injEq, Value.int.injEq, Nat.cast_inj, and_true] at h
  obtain ⟨hts, hpid, hret⟩ := h
  rw [UInt64.toNat_inj] at hts
  rw [Int64.toInt_inj] at hpid hret
  subst hts hpid hret hname
  rfl

@[simp] theorem length_encodeNumbers (timestamp : UInt64) (pid ret : Int64) :
    (encodeNumbers timestamp pid ret).length = 24 := by
  simp [encodeNumbers]

/-- **A header is read back from its bytes**, whatever is behind the NUL byte of its name. -/
theorem front_record (h : Header) {nameBytes : Bytes} (hlen : nameBytes.length = nameSize)
    (hname : Text.ofBytes nameBytes.untilNul = h.name) (rest : Bytes) :
    front (encodeNumbers h.timestamp h.pid h.ret ++ (nameBytes ++ rest)) = h := by
  refine numbers_inj ?_ ?_
  · rw [numbers_front, encodeNumbers_eq, Layout.read_encode_append (numbers_fit h)]
  · rw [front, List.drop_left' (length_encodeNumbers _ _ _), List.take_left' hlen, hname]

/-- Bytes after a header do not change it. -/
theorem front_append {buffer : Bytes} (h : size ≤ buffer.length) (extra : Bytes) :
    front (buffer ++ extra) = front buffer := by
  rw [size, nameSize] at h
  simp (disch := grind [nameSize]) only [front, Bytes.read64, Bytes.readSigned64,
    List.take_append_of_le_length, List.drop_append_of_le_length]

end Header

/-! ## Events -/

namespace Event

/-- The kind of record that an event comes from. -/
def kind? : Event → Option Kind
  | .syscall e => some (.syscall e.syscall)
  | .install _ => some .install
  | .connectionV4 c => some (.connectionV4 c.stage)
  | .connectionV6 c => some (.connectionV6 c.stage)
  | .unknown => none

/-- The fields of a connection, given how an address is stored. -/
def connectionFields {α : Type} (address : α → Value) (c : Connection α) :
    List (String × Value) :=
  [("saddr", address c.source), ("daddr", address c.destination),
    ("sport", .int c.sourcePort.toNat), ("dport", .int c.destinationPort.toNat),
    ("netns", .int c.netns.toNat)]

/-- The fields of an event by name, in record order. -/
def fields : Event → List (String × Value)
  | .syscall e => e.args.map fun arg => (arg.param.name, arg.value)
  | .install e =>
    [("fd", .int e.fd.toNat), ("ino", .int e.identity.ino.toNat),
      ("major", .int e.identity.major.toNat), ("minor", .int e.identity.minor.toNat)]
  | .connectionV4 c => connectionFields (fun a => .int a.word.toNat) c
  | .connectionV6 c => connectionFields (fun a => .bytes a.octets) c
  | .unknown => []

/-- The values of the fields. -/
def values (event : Event) : List Value :=
  event.fields.map Prod.snd

end Event

/-- Looking paths up keeps the arguments and their values. -/
theorem SyscallEvent.args_resolveArgs (s : Surroundings) (pid : Pid) (t : Table)
    (pairs : List (Param DecoderType × Value)) :
    (resolveArgs s pid t pairs).value.map (fun arg => (arg.param, arg.value)) = pairs := by
  induction pairs generalizing t with
  | nil => rfl
  | cons pair pairs ih =>
    obtain ⟨param, value⟩ := pair
    unfold resolveArgs
    split
    · exact congrArg ((param, value) :: ·) (ih _)
    · exact congrArg ((param, value) :: ·) (ih _)

/-- What a syscall does to the table does not change it. -/
@[simp] theorem SyscallEvent.value_settle (pid : Pid) (event : SyscallEvent) (t : Table) :
    (settle pid event t).value = event := by
  unfold settle
  split <;> rfl

theorem SyscallEvent.value_decode (s : Surroundings) (t : Table) (pid : Pid)
    (call : Syscall DecoderType) (payload : Bytes) :
    (decode s t pid call payload).1.value =
      ⟨call, (resolveArgs s pid t (call.params.zip (call.layout.read payload).1)).value⟩ :=
  value_settle _ _ _

namespace Event

variable (s : Surroundings) (t : Table) (pid : Pid) (payload : Bytes)

theorem kind?_decodeKind (kind : Kind) :
    (decodeKind s t pid payload kind).1.value.kind? = some kind := by
  cases kind with
  | syscall call =>
    show (Event.syscall (SyscallEvent.settle pid _ _).value).kind? = _
    rw [SyscallEvent.value_settle]
    rfl
  | install => rfl
  | connectionV4 stage => rfl
  | connectionV6 stage => rfl

/-- **The fields of an event are those of its record**, whatever the surroundings. -/
theorem fields_decodeKind (kind : Kind) :
    (decodeKind s t pid payload kind).1.value.fields =
      kind.fieldNames.zip (kind.layout.read payload).1 := by
  cases kind with
  | syscall call =>
    have hargs := SyscallEvent.args_resolveArgs s pid t
      (call.params.zip (call.layout.read payload).1)
    show (Event.syscall (SyscallEvent.settle pid _ _).value).fields = _
    rw [SyscallEvent.value_settle]
    calc (SyscallEvent.resolveArgs s pid t _).value.map (fun arg => (arg.param.name, arg.value))
        = ((SyscallEvent.resolveArgs s pid t _).value.map fun arg => (arg.param, arg.value)).map
            (Prod.map Param.name id) := by rw [List.map_map]; rfl
      _ = (call.params.map Param.name).zip (call.layout.read payload).1 := by
          rw [hargs, List.zip_map_left]
  | install =>
    simp only [decodeKind, Outcome.map, InstallEvent.decode, fields, Bytes.read64_fst]
    rfl
  | connectionV4 stage =>
    simp only [decodeKind, Outcome.pure, Connection.decodeV4, Connection.decodePorts, fields,
      connectionFields, Bytes.read32_fst, Bytes.read16_fst]
    rfl
  | connectionV6 stage =>
    simp only [decodeKind, Outcome.pure, Connection.decodeV6, Connection.decodePorts, fields,
      connectionFields, Bytes.read32_fst, Bytes.read16_fst]
    rfl

theorem length_fieldNames (kind : Kind) : kind.fieldNames.length = kind.layout.length := by
  cases kind <;> simp [Kind.fieldNames, Kind.layout, Syscall.layout, Kind.installLayout,
    Kind.connectionV4Layout, Kind.connectionV6Layout, Kind.connectionFields]

theorem values_decodeKind (kind : Kind) :
    (decodeKind s t pid payload kind).1.value.values = (kind.layout.read payload).1 := by
  have hlen : (kind.layout.read payload).1.length ≤ kind.fieldNames.length := by
    rw [Layout.length_read, length_fieldNames]
  rw [values, fields_decodeKind]
  exact List.map_snd_zip hlen

/-- **What decoding leaves of a payload** is what follows the fields of its kind. -/
theorem decodeKind_snd (kind : Kind) :
    (decodeKind s t pid payload kind).2 = payload.drop kind.payloadSize := by
  rw [Kind.payloadSize, ← Layout.read_snd]
  cases kind <;> rfl

/-- Bytes after a payload do not change what is decoded, asked, changed or logged. -/
theorem decodeKind_append {kind : Kind} {payload : Bytes} (h : kind.payloadSize ≤ payload.length)
    (extra : Bytes) :
    (decodeKind s t pid (payload ++ extra) kind).1 = (decodeKind s t pid payload kind).1 := by
  cases kind with
  | syscall call =>
    have h : call.layout.size ≤ payload.length := h
    simp only [decodeKind, SyscallEvent.decode, Layout.read_append h]
  | install =>
    have h : 32 ≤ payload.length := h
    simp (disch := grind) only [decodeKind, InstallEvent.decode, Bytes.read64,
      List.take_append_of_le_length, List.drop_append_of_le_length]
  | connectionV4 stage =>
    have h : 16 ≤ payload.length := h
    simp (disch := grind) only [decodeKind, Connection.decodeV4, Connection.decodePorts,
      Bytes.read16, Bytes.read32, List.take_append_of_le_length, List.drop_append_of_le_length]
  | connectionV6 stage =>
    have h : 40 ≤ payload.length := h
    simp (disch := grind) only [decodeKind, Connection.decodeV6, Connection.decodePorts,
      Bytes.read16, Bytes.read32, Bytes.readBlock, List.take_append_of_le_length,
      List.drop_append_of_le_length]

end Event

end Tracepoint
