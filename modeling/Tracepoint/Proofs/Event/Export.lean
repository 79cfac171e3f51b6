import Mathlib
import Tracepoint.Event.Metric
import Tracepoint.Proofs.Address.ReadBack
import Tracepoint.Proofs.Event.Faithful
import Tracepoint.Proofs.Text.Lossy

/-!
# Exporting loses nothing

Whatever kind of event an envelope was made of, one function takes it apart again into the header
and the payload.

* `Event.message?_eq` — all messages are made one way: the fields by name, each as its kind sends
  it;
* `Kind.value_wire` — a field that fits its record is read back from what is sent, also if that is
  the text of an address;
* `Metric.origin?` — the header and the payload that an envelope was made of;
* `export_contract` — they are those of the buffer, for every event that is exported.
-/

set_option autoImplicit false

namespace Tracepoint

/-! ## Messages -/

namespace Kind

/-- The alternative of the envelope that records of a kind travel in, if there is one. -/
def variant? : Kind → Option String
  | .syscall call => some call.typeName
  | .install => none
  | .connectionV4 _ => some "ConnectV4Event"
  | .connectionV6 _ => some "ConnectV6Event"

/-- A field of a record as it travels: an IPv6 address as text. -/
def wire : Kind → Value → WireValue
  | .connectionV6 _, .bytes octets => .text (Ipv6.text ⟨octets⟩)
  | _, value => value.wire

theorem variant?_isSome_iff {kind : Kind} : (∃ v, kind.variant? = some v) ↔ kind ≠ .install := by
  cases kind <;> simp [variant?]

end Kind

theorem Event.message?_eq (event : Event) :
    event.message? = event.kind?.bind fun kind => kind.variant?.map fun variant =>
      ⟨variant, event.fields.map fun field => (field.1, kind.wire field.2)⟩ := by
  cases event with
  | syscall e =>
    simp only [message?, SyscallEvent.message, kind?, fields, Option.bind_some, Kind.variant?,
      Option.map_some, List.map_map]
    rfl
  | install e => rfl
  | connectionV4 c => rfl
  | connectionV6 c => rfl
  | unknown => rfl

/-! ## Values read back -/

/-- The value that a field of a message carries. -/
def WireValue.value : WireValue → Value
  | .int i => .int i
  | .bytes b => .bytes b
  | .text address => .bytes (Ipv6.ofText address).octets

theorem Layout.Fits.exists_storage {layout : Layout} {values : List Value}
    (h : layout.Fits values) : ∀ v ∈ values, ∃ s ∈ layout, s.Fits v := by
  induction h with
  | nil => simp
  | cons hfits _ ih =>
    intro v hv
    rcases List.mem_cons.mp hv with rfl | hv
    · exact ⟨_, List.mem_cons_self, hfits⟩
    · obtain ⟨s, hs, hfits⟩ := ih v hv
      exact ⟨s, List.mem_cons_of_mem _ hs, hfits⟩

/-- The blocks among the fields of an IPv6 connection are addresses. -/
theorem Kind.length_of_fits_v6 {s : Storage} (hs : s ∈ connectionV6Layout) {octets : Bytes}
    (h : s.Fits (.bytes octets)) : octets.length = 16 := by
  simp only [connectionV6Layout, List.mem_cons, List.not_mem_nil, or_false] at hs
  rcases hs with rfl | rfl | rfl | rfl | rfl
  · exact h
  · exact h
  · cases h
  · cases h
  · cases h

theorem Value.value_wire (v : Value) : v.wire.value = v := by
  cases v <;> rfl

/-- **What is sent of the fields of a record is read back.** -/
theorem Kind.value_wire {kind : Kind} {values : List Value} (h : kind.layout.Fits values) :
    values.map (fun v => (kind.wire v).value) = values := by
  refine (List.map_congr_left fun v hv => ?_).trans (List.map_id values)
  obtain ⟨s, hs, hfits⟩ := Layout.Fits.exists_storage h v hv
  cases kind with
  | syscall call => exact v.value_wire
  | install => exact v.value_wire
  | connectionV4 stage => exact v.value_wire
  | connectionV6 stage =>
    cases v with
    | int i => rfl
    | bytes octets =>
      have hlen := length_of_fits_v6 hs hfits
      show Value.bytes (Ipv6.ofText (Ipv6.text ⟨octets⟩)).octets = .bytes octets
      rw [Ipv6.ofText_text hlen]

/-! ## Envelopes -/

/-- A header, and the bytes of a payload. -/
structure Origin where
  header : Header
  payload : Bytes
  deriving DecidableEq, Repr

/-- The header that a message was made of. -/
def HeaderMessage.header (m : HeaderMessage) : Header :=
  ⟨m.timestamp, m.pid, m.ret, m.name⟩

/-- The payload that the message of an event of a kind was made of. -/
def EventMessage.payload (kind : Kind) (m : EventMessage) : Bytes :=
  kind.layout.encode (m.fields.map fun field => field.2.value)

/-- What an envelope was made of.  The name in the header says how to read the message. -/
def Metric.origin? (m : Metric) : Option Origin :=
  match m.common, m.event with
  | some common, some message =>
    (Kind.ofName? common.name).map fun kind => ⟨common.header, message.payload kind⟩
  | _, _ => none

/-- The envelope of an event of a kind. -/
theorem DecodedEvent.metric?_eq {d : DecodedEvent} {kind : Kind} (h : d.event.kind? = some kind) :
    d.metric? = kind.variant?.map fun variant =>
      ⟨1, some d.header.message,
        some ⟨variant, d.event.fields.map fun field => (field.1, kind.wire field.2)⟩⟩ := by
  rw [metric?, Event.message?_eq, h, Option.bind_some, Option.map_map]
  rfl

theorem DecodedEvent.kind?_of_metric {d : DecodedEvent} {m : Metric} (h : d.metric? = some m) :
    ∃ kind, d.event.kind? = some kind ∧ kind ≠ .install := by
  cases hkind : d.event.kind? with
  | none =>
    rw [metric?, Event.message?_eq, hkind] at h
    cases h
  | some kind =>
    rw [metric?_eq hkind, Option.map_eq_some_iff] at h
    obtain ⟨variant, hvariant, -⟩ := h
    exact ⟨kind, rfl, Kind.variant?_isSome_iff.mp ⟨variant, hvariant⟩⟩

/-! ## Buffers -/

namespace Captured

/-- The numbers of a captured record. -/
def numbers (buffer : Bytes) : Bytes :=
  buffer.take 24

/-- The name of a captured record, up to its first NUL byte. -/
def nameBytes (buffer : Bytes) : Bytes :=
  Bytes.untilNul ((buffer.drop 24).take Header.nameSize)

/-- The payload of a captured record of a kind. -/
def payload (kind : Kind) (buffer : Bytes) : Bytes :=
  (buffer.drop Header.size).take kind.payloadSize

/-- Two buffers that hold the same record of one kind, whatever the bytes behind the NUL byte of
the name are and whatever follows. -/
structure Same (b₁ b₂ : Bytes) : Prop where
  numbers : numbers b₁ = numbers b₂
  name : nameBytes b₁ = nameBytes b₂
  payload : ∃ kind ∈ Kind.all, kind.name = (Header.front b₁).name ∧
    kind.name = (Header.front b₂).name ∧ payload kind b₁ = payload kind b₂

end Captured

/-- What a buffer holds that is decoded to an event of a kind. -/
structure RecordOf (kind : Kind) (buffer : Bytes) (d : DecodedEvent) : Prop where
  header : d.header = Header.front buffer
  listed : kind ∈ Kind.all
  name : kind.name = d.header.name
  size : kind.payloadSize ≤ (buffer.drop Header.size).length
  fields : d.event.fields = kind.fieldNames.zip (kind.layout.read (buffer.drop Header.size)).1
  numbers : Header.encodeNumbers d.header.timestamp d.header.pid d.header.ret =
    Captured.numbers buffer
  nameBytes : Text.toBytes d.header.name = Captured.nameBytes buffer
  payload : kind.layout.encode d.event.values = Captured.payload kind buffer

theorem Kind.isAscii_name : ∀ kind ∈ all, Text.Utf8.IsAscii kind.name.toList := by
  decide +kernel

variable {s : Surroundings} {t : Table} {buffer : Bytes} {d : DecodedEvent}

theorem recordOf_decodeBuffer (h : (decodeBuffer s t buffer).value = .ok d) {kind : Kind}
    (hkind : d.event.kind? = some kind) : RecordOf kind buffer d := by
  obtain ⟨hnumbers, hpayload⟩ := encode_decodeBuffer h hkind
  rw [decodeBuffer_eq] at h
  rcases Framed.value_decode_eq_ok h with ⟨-, hunknown⟩ | ⟨found, payload, hframed, hk, he⟩
  · rw [hunknown] at hkind
    cases hkind
  obtain rfl : found = kind := Option.some.inj (hk.symm.trans hkind)
  obtain ⟨-, hfront, rfl, ⟨hmem, hname⟩, hsize⟩ := Framed.ofBuffer_eq_record.mp hframed
  have hfields : d.event.fields =
      found.fieldNames.zip (found.layout.read (buffer.drop Header.size)).1 := by
    rw [he, Event.fields_decodeKind]
  have hbytes : Captured.nameBytes buffer = Text.toBytes d.header.name := by
    have htext : Text.ofBytes (Captured.nameBytes buffer) = d.header.name := by
      rw [hfront]
      rfl
    rwa [Text.ofBytes_eq_iff (by rw [← hname]; exact Kind.isAscii_name found hmem)] at htext
  exact ⟨hfront, hmem, hname, hsize, hfields, hnumbers, hbytes.symm, hpayload⟩

theorem RecordOf.values_fit {kind : Kind} (h : RecordOf kind buffer d) :
    kind.layout.Fits d.event.values := by
  have hfits : kind.layout.Fits (kind.layout.read (buffer.drop Header.size)).1 :=
    Layout.fits_read h.size
  have hlen : (kind.layout.read (buffer.drop Header.size)).1.length ≤ kind.fieldNames.length := by
    rw [Layout.length_read, Event.length_fieldNames]
  rw [Event.values, h.fields]
  rwa [List.map_snd_zip hlen]

theorem RecordOf.ofName? {kind : Kind} (h : RecordOf kind buffer d) :
    Kind.ofName? d.header.name = some kind :=
  Kind.ofName?_eq_some.mpr ⟨h.listed, h.name⟩

/-- **The envelope of an event is made of the header and the payload of the buffer.** -/
theorem RecordOf.origin? {kind : Kind} (h : RecordOf kind buffer d)
    (hkind : d.event.kind? = some kind) {m : Metric} (hm : d.metric? = some m) :
    m.origin? = some ⟨Header.front buffer, Captured.payload kind buffer⟩ := by
  rw [DecodedEvent.metric?_eq hkind, Option.map_eq_some_iff] at hm
  obtain ⟨variant, -, rfl⟩ := hm
  have hname : Kind.ofName? d.header.message.name = some kind := h.ofName?
  have hvalues : (d.event.fields.map fun field => (field.1, kind.wire field.2)).map
      (fun field => field.2.value) = d.event.values := by
    rw [List.map_map]
    calc d.event.fields.map (fun field => (kind.wire field.2).value)
        = d.event.values.map fun v => (kind.wire v).value := by rw [Event.values, List.map_map]; rfl
      _ = d.event.values := Kind.value_wire h.values_fit
  rw [Metric.origin?]
  simp only [hname, Option.map_some, EventMessage.payload, hvalues, h.payload]
  rw [← h.header]
  rfl

/-! ## Exports -/

/-- What exporting promises about a buffer that was decoded. -/
structure ExportContract (s : Surroundings) (t : Table) (buffer : Bytes) (d : DecodedEvent) :
    Prop where
  /-- All events are exported but installed descriptors, and those without a decoder. -/
  exported_iff : (∃ m, d.metric? = some m) ↔
    ∃ kind ∈ Kind.all, kind.name = d.header.name ∧ kind ≠ .install
  /-- An event counts once, and nothing is filled in that collectors fill in. -/
  plain : ∀ m, d.metric? = some m → m.count = 1 ∧
    ∃ common, m.common = some common ∧ common.hash = 0 ∧ common.flags = 0
  /-- The header and the payload are recovered, the payload being what decoding consumed. -/
  origin : ∀ m, d.metric? = some m → ∃ kind ∈ Kind.all, kind.name = (Header.front buffer).name ∧
    m.origin? = some ⟨Header.front buffer, Captured.payload kind buffer⟩ ∧
    Captured.payload kind buffer ++ (Event.decode s t d.header (buffer.drop Header.size)).2 =
      buffer.drop Header.size
  /-- The header is that of the buffer to the byte, up to the NUL byte of the name. -/
  header : ∀ m o, d.metric? = some m → m.origin? = some o →
    Header.encodeNumbers o.header.timestamp o.header.pid o.header.ret = Captured.numbers buffer ∧
      Text.toBytes o.header.name = Captured.nameBytes buffer
  /-- Neither the surroundings nor the table show. -/
  context : ∀ s' t' d', (decodeBuffer s' t' buffer).value = .ok d' → d'.metric? = d.metric?

theorem snd_decode {kind : Kind} (h : RecordOf kind buffer d) :
    (Event.decode s t d.header (buffer.drop Header.size)).2 =
      (buffer.drop Header.size).drop kind.payloadSize := by
  have hsize : ¬ (buffer.drop Header.size).length < kind.payloadSize := Nat.not_lt.mpr h.size
  rw [Event.decode, h.ofName?]
  simp only [ensurePayload, if_neg hsize, Event.decodeKind_snd]

theorem exported_iff (h : (decodeBuffer s t buffer).value = .ok d) :
    (∃ m, d.metric? = some m) ↔ ∃ kind ∈ Kind.all, kind.name = d.header.name ∧ kind ≠ .install := by
  constructor
  · rintro ⟨m, hm⟩
    obtain ⟨kind, hkind, hne⟩ := DecodedEvent.kind?_of_metric hm
    have hrecord := recordOf_decodeBuffer h hkind
    exact ⟨kind, hrecord.listed, hrecord.name, hne⟩
  · rintro ⟨kind, hmem, hname, hne⟩
    rw [decodeBuffer_eq] at h
    rcases Framed.value_decode_eq_ok h with ⟨hframed, -⟩ | ⟨found, payload, hframed, hk, -⟩
    · obtain ⟨-, -, hnone⟩ := Framed.ofBuffer_eq_unknown.mp hframed
      exact absurd hname (hnone kind hmem)
    · obtain ⟨-, -, -, hfound, -⟩ := Framed.ofBuffer_eq_record.mp hframed
      obtain rfl : found = kind := Option.some.inj
        ((Kind.ofName?_eq_some.mpr hfound).symm.trans (Kind.ofName?_eq_some.mpr ⟨hmem, hname⟩))
      obtain ⟨variant, hvariant⟩ := Kind.variant?_isSome_iff.mpr hne
      rw [DecodedEvent.metric?_eq hk, hvariant]
      exact ⟨_, rfl⟩

theorem metric?_context (h : (decodeBuffer s t buffer).value = .ok d) {s' : Surroundings}
    {t' : Table} {d' : DecodedEvent} (h' : (decodeBuffer s' t' buffer).value = .ok d') :
    d'.metric? = d.metric? := by
  have hframe := h
  have hframe' := h'
  rw [decodeBuffer_eq] at hframe hframe'
  rcases Framed.value_decode_eq_ok hframe with ⟨hf, he⟩ | ⟨kind, payload, hf, hk, -⟩
  · rcases Framed.value_decode_eq_ok hframe' with ⟨-, he'⟩ | ⟨kind', payload', hf', -⟩
    · rw [DecodedEvent.metric?, DecodedEvent.metric?, he, he']
      rfl
    · rw [hf] at hf'
      cases hf'
  · rcases Framed.value_decode_eq_ok hframe' with ⟨hf', -⟩ | ⟨kind', payload', hf', hk', -⟩
    · rw [hf] at hf'
      cases hf'
    · rw [hf, Framed.record.injEq] at hf'
      obtain ⟨hheader, rfl, -⟩ := hf'
      rw [DecodedEvent.metric?_eq hk, DecodedEvent.metric?_eq hk', hheader,
        (recordOf_decodeBuffer h hk).fields, (recordOf_decodeBuffer h' hk').fields]

theorem exportContract (h : (decodeBuffer s t buffer).value = .ok d) :
    ExportContract s t buffer d where
  exported_iff := exported_iff h
  plain := by
    intro m hm
    obtain ⟨kind, hkind, -⟩ := DecodedEvent.kind?_of_metric hm
    rw [DecodedEvent.metric?_eq hkind, Option.map_eq_some_iff] at hm
    obtain ⟨variant, -, rfl⟩ := hm
    exact ⟨rfl, _, rfl, rfl, rfl⟩
  origin := by
    intro m hm
    obtain ⟨kind, hkind, -⟩ := DecodedEvent.kind?_of_metric hm
    have hrecord := recordOf_decodeBuffer h hkind
    refine ⟨kind, hrecord.listed, by rw [hrecord.name, hrecord.header],
      hrecord.origin? hkind hm, ?_⟩
    rw [snd_decode hrecord, Captured.payload, List.take_append_drop]
  header := by
    intro m o hm ho
    obtain ⟨kind, hkind, -⟩ := DecodedEvent.kind?_of_metric hm
    have hrecord := recordOf_decodeBuffer h hkind
    rw [hrecord.origin? hkind hm] at ho
    cases ho
    rw [← hrecord.header]
    exact ⟨hrecord.numbers, hrecord.nameBytes⟩
  context := fun _ _ _ h' => metric?_context h h'

theorem captured_same {s₁ s₂ : Surroundings} {t₁ t₂ : Table} {b₁ b₂ : Bytes}
    {d₁ d₂ : DecodedEvent} (h₁ : (decodeBuffer s₁ t₁ b₁).value = .ok d₁)
    (h₂ : (decodeBuffer s₂ t₂ b₂).value = .ok d₂) {m : Metric} (hm₁ : d₁.metric? = some m)
    (hm₂ : d₂.metric? = some m) : Captured.Same b₁ b₂ := by
  have hc₁ := exportContract h₁
  have hc₂ := exportContract h₂
  obtain ⟨kind, hmem, hname, ho₁, -⟩ := hc₁.origin m hm₁
  obtain ⟨kind', hmem', hname', ho₂, -⟩ := hc₂.origin m hm₂
  obtain ⟨hnumbers₁, hbytes₁⟩ := hc₁.header m _ hm₁ ho₁
  obtain ⟨hnumbers₂, hbytes₂⟩ := hc₂.header m _ hm₂ ho₂
  have horigin := Option.some.inj (ho₁.symm.trans ho₂)
  have hheader : Header.front b₁ = Header.front b₂ := congrArg Origin.header horigin
  have hpayload : Captured.payload kind b₁ = Captured.payload kind' b₂ :=
    congrArg Origin.payload horigin
  simp only at hnumbers₁ hbytes₁ hnumbers₂ hbytes₂
  have hkind : kind = kind' := by
    have hsame : kind.name = kind'.name := by rw [hname, hname', hheader]
    exact Option.some.inj ((Kind.ofName?_eq_some.mpr ⟨hmem, hsame⟩).symm.trans
      (Kind.ofName?_eq_some.mpr ⟨hmem', rfl⟩))
  subst hkind
  refine ⟨?_, ?_, kind, hmem, hname, hname', hpayload⟩
  · rw [← hnumbers₁, ← hnumbers₂, hheader]
  · rw [← hbytes₁, ← hbytes₂, hheader]

/-- **Exporting loses nothing.**  One function takes every envelope apart into the header and the
payload of the buffer that it was made of, so that two buffers with one envelope hold one
record. -/
theorem export_contract :
    (∀ s t buffer d, (decodeBuffer s t buffer).value = .ok d → ExportContract s t buffer d) ∧
    ∀ s₁ t₁ b₁ d₁ s₂ t₂ b₂ d₂ m, (decodeBuffer s₁ t₁ b₁).value = .ok d₁ →
      (decodeBuffer s₂ t₂ b₂).value = .ok d₂ → d₁.metric? = some m → d₂.metric? = some m →
        Captured.Same b₁ b₂ :=
  ⟨fun _ _ _ _ h => exportContract h,
    fun _ _ _ _ _ _ _ _ _ h₁ h₂ hm₁ hm₂ => captured_same h₁ h₂ hm₁ hm₂⟩

/-- A connection from an address with a gap in its text to one that maps an IPv4 address. -/
def mappedConnection : List Value :=
  [.bytes [0x20, 1, 0xd, 0xb8, 0, 0, 0, 0, 0, 0, 0, 0, 0, 0, 0, 1],
    .bytes [0, 0, 0, 0, 0, 0, 0, 0, 0, 0, 0xFF, 0xFF, 127, 0, 0, 1], .int 40000, .int 443, .int 3]

/-- The record of the connection, with more bytes behind it or without. -/
theorem export_mappedConnection :
    let header : Header := ⟨7, -1, 0, "connect_v6"⟩
    let buffer extra := Header.encodeNumbers header.timestamp header.pid header.ret ++
      (Header.nameField header.name ++ (Kind.connectionV6Layout.encode mappedConnection ++ extra))
    ∀ s t, ∃ d d' m, (decodeBuffer s t (buffer [])).value = .ok d ∧
      (decodeBuffer s t (buffer [9])).value = .ok d' ∧ d.metric? = some m ∧ d'.metric? = some m ∧
      ExportContract s t (buffer []) d ∧ Captured.Same (buffer []) (buffer [9]) := by
  intro header buffer s t
  have hkind : .connectionV6 .connect ∈ Kind.all := by decide
  have hlen := Header.length_nameField header.name
  have hbytes : Text.ofBytes (Header.nameField header.name).untilNul = header.name :=
    Kind.ofBytes_nameField (.connectionV6 .connect) hkind
  have hfits : (Kind.connectionV6 .connect).layout.Fits mappedConnection :=
    .cons (by decide) (.cons (by decide) (.cons (by decide) (.cons (by decide)
      (.cons (by decide) .nil))))
  obtain ⟨e, h, hk, hfields⟩ := decodeBuffer_record hkind hlen hbytes rfl hfits [] s t
  obtain ⟨e', h', hk', hfields'⟩ := decodeBuffer_record hkind hlen hbytes rfl hfits [9] s t
  have hcontract := export_contract.1 s t (buffer []) ⟨header, e⟩ h
  obtain ⟨m, hm⟩ := hcontract.exported_iff.mpr ⟨.connectionV6 .connect, hkind, rfl, by decide⟩
  have hm' : DecodedEvent.metric? ⟨header, e'⟩ = some m := by
    rw [← hm, DecodedEvent.metric?_eq hk', DecodedEvent.metric?_eq hk, hfields, hfields']
  exact ⟨_, _, m, h, h', hm, hm', hcontract,
    export_contract.2 s t _ _ s t _ _ m h h' hm hm'⟩

end Tracepoint
