import Mathlib
import Tracepoint.Proofs.Event.Export

/-!
# Which decoder runs

The decoder is chosen by comparing texts: the lossily decoded name field with the name of each
kind.  Since decoding neither makes nor loses ASCII, this is as good as comparing bytes, and a name
field that is no text cannot be taken for the name of a kind.

* `Captured.Complete` — a buffer with a complete header, in its parts;
* `Captured.Complete.named_iff` — a kind is named by its own ASCII bytes alone;
* `dispatch_contract` — so the decoder of a kind runs exactly on those bytes, whatever is behind
  the NUL byte.
-/

set_option autoImplicit false

namespace Tracepoint

/-! ## Names as bytes -/

namespace Kind

/-- The name of a kind in ASCII. -/
def asciiName (kind : Kind) : Bytes :=
  kind.name.toList.map fun c => UInt8.ofNat c.toNat

theorem asciiName_eq {kind : Kind} (hkind : kind ∈ all) :
    kind.asciiName = Text.toBytes kind.name :=
  (Text.Utf8.encode_ascii (isAscii_name kind hkind)).symm

/-- What the decoder of a kind makes of a payload that is long enough. -/
def outcome (kind : Kind) (s : Surroundings) (t : Table) (header : Header) (payload : Bytes) :
    Outcome (Except DecodeError DecodedEvent) :=
  (Event.decodeKind s t header.process payload kind).1.map fun event => .ok ⟨header, event⟩

end Kind

/-! ## Buffers with a complete header -/

namespace Captured

/-- A buffer that holds a complete header, in its parts. -/
structure Complete where
  numbers : Bytes
  nameField : Bytes
  payload : Bytes
  length_numbers : numbers.length = 24
  length_nameField : nameField.length = Header.nameSize

namespace Complete

variable (c : Complete)

/-- The buffer. -/
def buffer : Bytes :=
  c.numbers ++ (c.nameField ++ c.payload)

/-- The header of the buffer. -/
def header : Header :=
  Header.front c.buffer

/-- The bytes of the name field before its first NUL byte. -/
def name : Bytes :=
  c.nameField.untilNul

theorem size_le_length : Header.size ≤ c.buffer.length := by
  have hnumbers := c.length_numbers
  have hname := c.length_nameField
  simp only [buffer, List.length_append, Header.size]
  omega

theorem drop_buffer : c.buffer.drop Header.size = c.payload := by
  rw [buffer, ← List.append_assoc, List.drop_left']
  rw [List.length_append, c.length_numbers, c.length_nameField, Header.size]

theorem header_name : c.header.name = Text.ofBytes c.name := by
  rw [header, Header.front, buffer, List.drop_left' c.length_numbers,
    List.take_left' c.length_nameField, name]

/-- The numbers and the name are all that the header is made of. -/
theorem header_congr {c c' : Complete} (hnumbers : c.numbers = c'.numbers)
    (hname : c.name = c'.name) : c.header = c'.header := by
  have hread : ∀ c : Complete, c.header.numbers = (Header.numbersLayout.read c.numbers).1 := by
    intro c
    rw [header, Header.numbers_front, buffer,
      Layout.read_append (by rw [c.length_numbers]; decide)]
  exact Header.numbers_inj (by rw [hread, hread, hnumbers])
    (by rw [header_name, header_name, hname])

/-- Every buffer that is long enough has these parts. -/
theorem exists_complete {buffer : Bytes} (h : Header.size ≤ buffer.length) :
    ∃ c : Complete, c.buffer = buffer := by
  have hsize : Header.size = 24 + Header.nameSize := rfl
  refine ⟨⟨buffer.take 24, (buffer.drop 24).take Header.nameSize, buffer.drop Header.size, ?_, ?_⟩,
    ?_⟩
  · rw [List.length_take]
    omega
  · rw [List.length_take, List.length_drop]
    omega
  · simp only [Complete.buffer, hsize, ← List.drop_drop, List.take_append_drop]

/-- **A kind is named by its own bytes alone.** -/
theorem named_iff {kind : Kind} (hkind : kind ∈ Kind.all) :
    kind.name = c.header.name ↔ c.name = kind.asciiName := by
  rw [eq_comm, header_name, Text.ofBytes_eq_iff (Kind.isAscii_name kind hkind),
    Kind.asciiName_eq hkind]

theorem ofBuffer_eq : Framed.ofBuffer c.buffer = Framed.ofPayload c.header c.payload := by
  rw [Framed.ofBuffer, if_neg (Nat.not_lt.mpr c.size_le_length), drop_buffer, header]

variable (s : Surroundings) (t : Table)

theorem decodeBuffer_eq_ofPayload :
    decodeBuffer s t c.buffer = (Framed.ofPayload c.header c.payload).decode s t := by
  rw [decodeBuffer_eq, ofBuffer_eq]

variable {c s t}

theorem decodeBuffer_of_name {kind : Kind} (hkind : kind ∈ Kind.all)
    (hsize : kind.payloadSize ≤ c.payload.length) (hname : c.name = kind.asciiName) :
    decodeBuffer s t c.buffer = kind.outcome s t c.header c.payload := by
  have hframed : Framed.ofPayload c.header c.payload = .record c.header kind c.payload :=
    Framed.ofPayload_eq_record.mpr ⟨rfl, rfl, ⟨hkind, (c.named_iff hkind).mpr hname⟩, hsize⟩
  rw [decodeBuffer_eq_ofPayload, hframed]
  rfl

/-- The kind of a decoded event is the one that the name field spells. -/
theorem name_of_decoded {d : DecodedEvent} (h : (decodeBuffer s t c.buffer).value = .ok d)
    {kind : Kind} (hkind : d.event.kind? = some kind) :
    kind ∈ Kind.all ∧ c.name = kind.asciiName ∧ d.header.name = kind.name := by
  rw [decodeBuffer_eq_ofPayload] at h
  rcases Framed.value_decode_eq_ok h with ⟨-, hunknown⟩ | ⟨found, payload, hframed, hfound, -⟩
  · rw [hunknown] at hkind
    cases hkind
  · obtain rfl : found = kind := Option.some.inj (hfound.symm.trans hkind)
    obtain ⟨hheader, -, ⟨hmem, hname⟩, -⟩ := Framed.ofPayload_eq_record.mp hframed
    exact ⟨hmem, (c.named_iff hmem).mp hname, by rw [hheader, hname]⟩

theorem decodeBuffer_eq_unknown :
    (decodeBuffer s t c.buffer).value = .ok ⟨c.header, .unknown⟩ ↔
      ∀ kind ∈ Kind.all, c.name ≠ kind.asciiName := by
  have hnames : (∀ kind ∈ Kind.all, c.name ≠ kind.asciiName) ↔
      ∀ kind ∈ Kind.all, kind.name ≠ c.header.name :=
    forall₂_congr fun kind hkind => not_congr (c.named_iff hkind).symm
  rw [hnames, decodeBuffer_eq_ofPayload]
  constructor
  · intro h
    rcases Framed.value_decode_eq_ok h with ⟨hframed, -⟩ | ⟨kind, payload, -, hkind, -⟩
    · exact (Framed.ofPayload_eq_unknown.mp hframed).2
    · cases hkind
  · intro h
    rw [Framed.ofPayload_eq_unknown.mpr ⟨rfl, h⟩]
    rfl

end Complete

end Captured

/-! ## Dispatch -/

/-- What dispatch promises about a buffer with a complete header. -/
structure DispatchContract (s : Surroundings) (t : Table) (c : Captured.Complete) : Prop where
  /-- The decoder of a kind runs exactly if the name field up to its first NUL byte is the name of
  the kind, byte for byte. -/
  runs_iff : ∀ kind ∈ Kind.all, kind.payloadSize ≤ c.payload.length →
    (decodeBuffer s t c.buffer = kind.outcome s t c.header c.payload ↔ c.name = kind.asciiName)
  /-- Every other name field is that of an event without a decoder. -/
  unknown_iff : (decodeBuffer s t c.buffer).value = .ok ⟨c.header, .unknown⟩ ↔
    ∀ kind ∈ Kind.all, c.name ≠ kind.asciiName
  /-- So is one that encodes no text. -/
  no_text : (∀ text, c.name ≠ Text.toBytes text) →
    (decodeBuffer s t c.buffer).value = .ok ⟨c.header, .unknown⟩
  /-- The bytes behind the first NUL byte do not matter. -/
  behind_nul : ∀ c' : Captured.Complete, c'.numbers = c.numbers → c'.name = c.name →
    c'.payload = c.payload → decodeBuffer s t c'.buffer = decodeBuffer s t c.buffer
  /-- A decoded event is of the kind that the name field spells. -/
  kind_eq : ∀ d kind, (decodeBuffer s t c.buffer).value = .ok d → d.event.kind? = some kind →
    c.name = kind.asciiName ∧ d.header.name = kind.name
  /-- A connection has the step that the name tells. -/
  stage_v4 : ∀ header connection,
    (decodeBuffer s t c.buffer).value = .ok ⟨header, .connectionV4 connection⟩ →
      connection.stage.nameV4 = header.name
  stage_v6 : ∀ header connection,
    (decodeBuffer s t c.buffer).value = .ok ⟨header, .connectionV6 connection⟩ →
      connection.stage.nameV6 = header.name

theorem dispatchContract (s : Surroundings) (t : Table) (c : Captured.Complete) :
    DispatchContract s t c where
  runs_iff := by
    intro kind hkind hsize
    constructor
    · intro h
      -- the event that came out tells which decoder made it
      have hvalue : (decodeBuffer s t c.buffer).value = .ok ⟨c.header,
          (Event.decodeKind s t c.header.process c.payload kind).1.value⟩ := by
        rw [h]
        rfl
      exact (Captured.Complete.name_of_decoded hvalue (Event.kind?_decodeKind _ _ _ _ _)).2.1
    · exact Captured.Complete.decodeBuffer_of_name hkind hsize
  unknown_iff := Captured.Complete.decodeBuffer_eq_unknown
  no_text := by
    intro h
    refine Captured.Complete.decodeBuffer_eq_unknown.mpr ?_
    intro kind hkind
    rw [Kind.asciiName_eq hkind]
    exact h kind.name
  behind_nul := by
    intro c' hnumbers hname hpayload
    rw [Captured.Complete.decodeBuffer_eq_ofPayload, Captured.Complete.decodeBuffer_eq_ofPayload,
      Captured.Complete.header_congr hnumbers hname, hpayload]
  kind_eq _ _ h hkind := (Captured.Complete.name_of_decoded h hkind).2
  stage_v4 _ _ h := (Captured.Complete.name_of_decoded h rfl).2.2.symm
  stage_v6 _ _ h := (Captured.Complete.name_of_decoded h rfl).2.2.symm

/-- **Dispatch is by the exact bytes of the name**, for every buffer with a complete header,
whatever the table holds and whatever is answered. -/
theorem dispatch_contract (s : Surroundings) (t : Table) :
    (∀ buffer : Bytes, Header.size ≤ buffer.length → ∃ c : Captured.Complete, c.buffer = buffer) ∧
      ∀ c, DispatchContract s t c :=
  ⟨fun _ h => Captured.Complete.exists_complete h, dispatchContract s t⟩

end Tracepoint
