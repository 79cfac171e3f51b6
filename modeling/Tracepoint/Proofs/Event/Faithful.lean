import Mathlib
import Tracepoint.Proofs.Event.Framing
import Tracepoint.Proofs.Event.WrittenHeader

/-!
# Decoding is faithful to the bytes

Decoding a packed record yields what was packed, and packing what was decoded yields the bytes it
came from, for every kind of record and whatever the table and the surroundings are.

* `decodeBuffer_record` — a record is decoded to its header and its fields;
* `encode_decodeBuffer` — a decoded buffer is spelled by what it was decoded to;
* `faithful_decoding` — both, for every kind with a decoder.
-/

set_option autoImplicit false

namespace Tracepoint

/-! ## From records to events -/

/-- The name of a kind fits into the name field. -/
theorem Kind.name_fits : ∀ kind ∈ all,
    (Text.toBytes kind.name).length ≤ Header.nameSize - 1 ∧ '\x00' ∉ kind.name.toList := by
  decide +kernel

/-- So it is read back from there. -/
theorem Kind.ofBytes_nameField (kind : Kind) (hkind : kind ∈ all) :
    Text.ofBytes (Header.nameField kind.name).untilNul = kind.name := by
  obtain ⟨hlength, hnul⟩ := name_fits kind hkind
  have hkept : (Header.nameField kind.name).untilNul = Text.toBytes kind.name :=
    Header.nameBytes_of_fits hlength hnul
  rw [hkept, Text.ofBytes_toBytes]

theorem framed_record {kind : Kind} (hkind : kind ∈ Kind.all) {header : Header}
    {nameBytes : Bytes} (hlen : nameBytes.length = Header.nameSize)
    (hbytes : Text.ofBytes nameBytes.untilNul = header.name) (hname : kind.name = header.name)
    {payload : Bytes} (hsize : kind.payloadSize ≤ payload.length) :
    Framed.ofBuffer
        (Header.encodeNumbers header.timestamp header.pid header.ret ++ (nameBytes ++ payload)) =
      .record header kind payload := by
  have hfront := Header.front_record header hlen hbytes payload
  have hdrop : (Header.encodeNumbers header.timestamp header.pid header.ret ++
      (nameBytes ++ payload)).drop Header.size = payload := by
    rw [← List.append_assoc, List.drop_left']
    simp [hlen, Header.size]
  rw [Framed.ofBuffer_eq_record, hfront, hdrop]
  refine ⟨?_, rfl, rfl, ⟨hkind, hname⟩, hsize⟩
  simp [hlen, Header.size]

/-- **A record is decoded to its header and its fields**, whatever follows it. -/
theorem decodeBuffer_record {kind : Kind} (hkind : kind ∈ Kind.all) {header : Header}
    {nameBytes : Bytes} (hlen : nameBytes.length = Header.nameSize)
    (hbytes : Text.ofBytes nameBytes.untilNul = header.name) (hname : kind.name = header.name)
    {values : List Value} (hv : kind.layout.Fits values) (extra : Bytes)
    (s : Surroundings) (t : Table) :
    ∃ event,
      (decodeBuffer s t (Header.encodeNumbers header.timestamp header.pid header.ret ++
        (nameBytes ++ (kind.layout.encode values ++ extra)))).value = .ok ⟨header, event⟩ ∧
      event.kind? = some kind ∧ event.fields = kind.fieldNames.zip values := by
  have hsize : kind.payloadSize ≤ (kind.layout.encode values ++ extra).length := by
    rw [List.length_append, Layout.length_encode hv.length_eq.symm]
    exact Nat.le_add_right _ _
  rw [decodeBuffer_eq, framed_record hkind hlen hbytes hname hsize]
  refine ⟨_, rfl, Event.kind?_decodeKind _ _ _ _ _, ?_⟩
  rw [Event.fields_decodeKind, Layout.read_encode_append hv]

/-- The record that is written of a header and of fields is decoded to them. -/
theorem decodeBuffer_encode {kind : Kind} (hkind : kind ∈ Kind.all) {header : Header}
    (hname : kind.name = header.name) {values : List Value} (hv : kind.layout.Fits values)
    (s : Surroundings) (t : Table) :
    ∃ event, (decodeBuffer s t (kind.encode header values)).value = .ok ⟨header, event⟩ ∧
      event.kind? = some kind ∧ event.fields = kind.fieldNames.zip values := by
  have hlen := Header.length_nameField header.name
  have hbytes : Text.ofBytes (Header.nameField header.name).untilNul = header.name := by
    rw [← hname]
    exact Kind.ofBytes_nameField kind hkind
  have hbuffer : kind.encode header values =
      Header.encodeNumbers header.timestamp header.pid header.ret ++
        (Header.nameField header.name ++ (kind.layout.encode values ++ [])) := by
    simp only [Kind.encode, Header.encode, List.append_assoc, List.append_nil]
  rw [hbuffer]
  exact decodeBuffer_record hkind hlen hbytes hname hv [] s t

/-! ## From events to records -/

/-- **A decoded buffer is spelled by what it was decoded to**: its numbers, and its payload. -/
theorem encode_decodeBuffer {s : Surroundings} {t : Table} {buffer : Bytes} {d : DecodedEvent}
    (h : (decodeBuffer s t buffer).value = .ok d) {kind : Kind}
    (hkind : d.event.kind? = some kind) :
    Header.encodeNumbers d.header.timestamp d.header.pid d.header.ret = buffer.take 24 ∧
      kind.layout.encode d.event.values = (buffer.drop Header.size).take kind.payloadSize := by
  rw [decodeBuffer_eq] at h
  rcases Framed.value_decode_eq_ok h with ⟨-, hunknown⟩ | ⟨found, payload, hframed, hk, he⟩
  · rw [hunknown] at hkind
    cases hkind
  · obtain rfl : found = kind := Option.some.inj (hk.symm.trans hkind)
    obtain ⟨hlen, hfront, rfl, -, hsize⟩ := Framed.ofBuffer_eq_record.mp hframed
    constructor
    · rw [Header.encodeNumbers_eq, hfront, Header.numbers_front]
      exact Layout.encode_read (Nat.le_trans (by decide) hlen)
    · rw [he, Event.values_decodeKind]
      exact Layout.encode_read hsize

/-! ## Both ways -/

/-- What decoding promises about the records of a kind. -/
structure FaithfulDecoding (kind : Kind) : Prop where
  /-- A header that names the kind and fields in range are read back, whatever the bytes behind the
  name are, whatever follows the record, and whatever the surroundings. -/
  decodes : ∀ (header : Header) (nameBytes : Bytes) (values : List Value) (extra : Bytes),
    nameBytes.length = Header.nameSize → Text.ofBytes nameBytes.untilNul = kind.name →
    header.name = kind.name → kind.layout.Fits values → ∀ (s : Surroundings) (t : Table),
      ∃ event,
        (decodeBuffer s t (Header.encodeNumbers header.timestamp header.pid header.ret ++
          (nameBytes ++ (kind.layout.encode values ++ extra)))).value = .ok ⟨header, event⟩ ∧
        event.kind? = some kind ∧ event.fields = kind.fieldNames.zip values
  /-- The numbers and the fields that were decoded spell the bytes they were decoded from. -/
  spells : ∀ (s : Surroundings) (t : Table) (buffer : Bytes) (d : DecodedEvent),
    (decodeBuffer s t buffer).value = .ok d → d.event.kind? = some kind →
      Header.encodeNumbers d.header.timestamp d.header.pid d.header.ret = buffer.take 24 ∧
        kind.layout.encode d.event.values = (buffer.drop Header.size).take kind.payloadSize

/-- **Decoding is faithful in both directions**, for every kind with a decoder. -/
theorem faithful_decoding {kind : Kind} (hkind : kind ∈ Kind.all) : FaithfulDecoding kind where
  decodes _ _ _ extra hlen hbytes hname hv s t :=
    decodeBuffer_record hkind hlen (hbytes.trans hname.symm) hname.symm hv extra s t
  spells _ _ _ _ h hk := encode_decodeBuffer h hk

/-- A descriptor that is closed, captured from a process of negative number. -/
theorem faithful_close :
    .syscall Traced.closeCall ∈ Kind.all ∧ ∀ s t,
      ∃ event,
        (decodeBuffer s t (Kind.encode (.syscall Traced.closeCall) ⟨7, -1, 0, "close"⟩
          [.int 5])).value = .ok ⟨⟨7, -1, 0, "close"⟩, event⟩ ∧
        event.fields = [("fd", .int 5)] ∧
        (Kind.syscall Traced.closeCall).layout.encode event.values = [5, 0, 0, 0, 0, 0, 0, 0] := by
  have hkind : .syscall Traced.closeCall ∈ Kind.all := by decide
  have hfaithful := faithful_decoding hkind
  have hlen := Header.length_nameField "close"
  have hbytes : Text.ofBytes (Header.nameField "close").untilNul = "close" :=
    Kind.ofBytes_nameField (.syscall Traced.closeCall) hkind
  have hv : (Kind.syscall Traced.closeCall).layout.Fits [.int 5] := .cons (by decide) .nil
  have hbuffer : Kind.encode (.syscall Traced.closeCall) ⟨7, -1, 0, "close"⟩ [.int 5] =
      Header.encodeNumbers 7 (-1) 0 ++ (Header.nameField "close" ++
        ((Kind.syscall Traced.closeCall).layout.encode [.int 5] ++ [])) := by
    simp only [Kind.encode, Header.encode, List.append_assoc, List.append_nil]
  refine ⟨hkind, fun s t => ?_⟩
  obtain ⟨event, hvalue, hk, hfields⟩ :=
    hfaithful.decodes ⟨7, -1, 0, "close"⟩ (Header.nameField "close") [.int 5] [] hlen hbytes rfl hv
      s t
  rw [← hbuffer] at hvalue
  refine ⟨event, hvalue, hfields, ?_⟩
  rw [(hfaithful.spells s t _ _ hvalue hk).2]
  decide +kernel

end Tracepoint
