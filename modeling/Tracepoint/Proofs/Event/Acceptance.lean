import Mathlib
import Tracepoint.Proofs.Event.InBounds

/-!
# Which buffers are accepted

Decoding never fails to answer.  It accepts the complete records and the events without a decoder,
and rejects what is cut off; a rejected buffer leaves everything as it was.

* `payload_contract` — a decoded event takes its own payload, a rejected one nothing;
* `decodeBuffer_accepted` — which buffers are accepted;
* `decodeBuffer_append` — what follows an accepted buffer does not matter;
* `decoding_contract` — both, for every table and surroundings.
-/

set_option autoImplicit false

namespace Tracepoint

/-! ## Payloads -/

namespace Event

variable (s : Surroundings) (t : Table) {header : Header} {payload : Bytes} {kind : Kind}

theorem decode_unknown (h : Kind.ofName? header.name = none) (payload : Bytes) :
    decode s t header payload = (⟨.ok .unknown, t, [],
      [⟨.trace, "No decoder for " ++ Text.Quoted.quote header.name ++ " events"⟩]⟩, payload) := by
  rw [decode, h]

theorem decode_short (h : Kind.ofName? header.name = some kind)
    (hlen : payload.length < kind.payloadSize) :
    decode s t header payload =
      (Outcome.pure t (.error (.truncatedPayload kind.name kind.payloadSize payload.length)),
        payload) := by
  simp only [decode, h, ensurePayload, if_pos hlen]

theorem decode_long (h : Kind.ofName? header.name = some kind)
    (hlen : ¬ payload.length < kind.payloadSize) :
    decode s t header payload =
      ((decodeKind s t header.process payload kind).1.map .ok,
        (decodeKind s t header.process payload kind).2) := by
  simp only [decode, h, ensurePayload, if_neg hlen]

end Event

/-- Bytes that an event takes after the header: those of its kind, none without a decoder. -/
def Event.payloadSize (event : Event) : Nat :=
  (event.kind?.map Kind.payloadSize).getD 0

/-- What decoding the event that a header announces promises for every payload. -/
structure PayloadContract (s : Surroundings) (t : Table) (header : Header) (payload : Bytes) :
    Prop where
  /-- No read fails. -/
  in_bounds : Event.decode? s t header payload = some (Event.decode s t header payload)
  /-- On success the payload advances by the size of the event, which it has. -/
  advances : ∀ event, (Event.decode s t header payload).1.value = .ok event →
    event.payloadSize ≤ payload.length ∧
      (Event.decode s t header payload).2 = payload.drop event.payloadSize
  /-- An event without a decoder is one that no kind has the name of. -/
  recognised : ∀ event, (Event.decode s t header payload).1.value = .ok event →
    event.kind? = Kind.ofName? header.name
  /-- On error the payload stays where it was, and so does the table; nothing is asked. -/
  stays : ∀ e, (Event.decode s t header payload).1.value = .error e →
    (Event.decode s t header payload).2 = payload ∧
      (Event.decode s t header payload).1.table = t ∧
      (Event.decode s t header payload).1.asked = []

theorem payload_contract (s : Surroundings) (t : Table) (header : Header) (payload : Bytes) :
    PayloadContract s t header payload := by
  have hin := Event.decode?_eq s t header payload
  cases hkind : Kind.ofName? header.name with
  | none =>
    have hdecode := Event.decode_unknown s t hkind payload
    refine ⟨hin, ?_, ?_, ?_⟩
    · intro event h
      rw [hdecode] at h ⊢
      cases h
      exact ⟨Nat.zero_le _, rfl⟩
    · intro event h
      rw [hdecode] at h
      cases h
      exact hkind.symm
    · intro e h
      rw [hdecode] at h
      cases h
  | some kind =>
    by_cases hlen : payload.length < kind.payloadSize
    · have hdecode := Event.decode_short s t hkind hlen
      refine ⟨hin, ?_, ?_, ?_⟩
      · intro event h
        rw [hdecode] at h
        cases h
      · intro event h
        rw [hdecode] at h
        cases h
      · intro e h
        rw [hdecode]
        exact ⟨rfl, rfl, rfl⟩
    · have hdecode := Event.decode_long s t hkind hlen
      have hevent : ∀ event, (Event.decode s t header payload).1.value = .ok event →
          event.kind? = some kind := by
        intro event h
        rw [hdecode] at h
        cases h
        exact Event.kind?_decodeKind _ _ _ _ _
      refine ⟨hin, ?_, ?_, ?_⟩
      · intro event h
        have hsize : event.payloadSize = kind.payloadSize := by
          rw [Event.payloadSize, hevent event h]
          rfl
        rw [hdecode, hsize]
        exact ⟨Nat.not_lt.mp hlen, Event.decodeKind_snd _ _ _ _ _⟩
      · intro event h
        rw [hevent event h, hkind]
      · intro e h
        rw [hdecode] at h
        cases h

/-! ## Buffers -/

section Buffer

variable {s : Surroundings} {t : Table} {buffer : Bytes}

theorem decodeBuffer_eq_error {e : DecodeError} :
    (decodeBuffer s t buffer).value = .error e ↔ Framed.ofBuffer buffer = .rejected e := by
  rw [decodeBuffer_eq, Framed.value_decode_eq_error]

theorem length_payload : (buffer.drop Header.size).length = buffer.length - 88 :=
  List.length_drop

theorem decodeBuffer_truncated_header {length : Nat} :
    (decodeBuffer s t buffer).value = .error (.truncatedHeader length) ↔
      buffer.length < 88 ∧ length = buffer.length := by
  rw [decodeBuffer_eq_error, Framed.ofBuffer_eq_rejected]
  constructor
  · rintro (⟨hlen, he⟩ | ⟨-, kind, -, -, he⟩)
    · cases he
      exact ⟨hlen, rfl⟩
    · cases he
  · rintro ⟨hlen, rfl⟩
    exact .inl ⟨hlen, rfl⟩

theorem decodeBuffer_truncated_payload {event : String} {expected actual : Nat} :
    (decodeBuffer s t buffer).value = .error (.truncatedPayload event expected actual) ↔
      88 ≤ buffer.length ∧
        (∃ kind ∈ Kind.all, kind.name = (Header.front buffer).name ∧ event = kind.name ∧
          expected = kind.payloadSize) ∧
        actual = buffer.length - 88 ∧ actual < expected := by
  rw [decodeBuffer_eq_error, Framed.ofBuffer_eq_rejected, length_payload]
  constructor
  · rintro (⟨-, he⟩ | ⟨hlen, kind, ⟨hmem, hname⟩, hshort, he⟩)
    · cases he
    · cases he
      exact ⟨hlen, ⟨kind, hmem, hname, rfl, rfl⟩, rfl, hshort⟩
  · rintro ⟨hlen, ⟨kind, hmem, hname, rfl, rfl⟩, rfl, hshort⟩
    exact .inr ⟨hlen, kind, ⟨hmem, hname⟩, hshort, rfl⟩

/-- What is not rejected is accepted: a complete header, and a complete payload if there is a
decoder for its name. -/
theorem decodeBuffer_accepted :
    (∃ d, (decodeBuffer s t buffer).value = .ok d) ↔
      88 ≤ buffer.length ∧ ∀ kind ∈ Kind.all, kind.name = (Header.front buffer).name →
        kind.payloadSize ≤ buffer.length - 88 := by
  have hok : (∃ d, (decodeBuffer s t buffer).value = .ok d) ↔
      ∀ e, Framed.ofBuffer buffer ≠ .rejected e := by
    simp only [ne_eq, ← decodeBuffer_eq_error (s := s) (t := t)]
    cases (decodeBuffer s t buffer).value <;> simp
  rw [hok]
  constructor
  · intro h
    have hlen : 88 ≤ buffer.length := by
      by_contra hlt
      exact h _ (Framed.ofBuffer_eq_rejected.mpr (.inl ⟨Nat.not_le.mp hlt, rfl⟩))
    refine ⟨hlen, ?_⟩
    intro kind hmem hname
    by_contra hlt
    rw [← length_payload] at hlt
    exact h _ (Framed.ofBuffer_eq_rejected.mpr
      (.inr ⟨hlen, kind, ⟨hmem, hname⟩, Nat.not_le.mp hlt, rfl⟩))
  · rintro ⟨hlen, hall⟩ e he
    rcases Framed.ofBuffer_eq_rejected.mp he with ⟨hlt, -⟩ | ⟨-, kind, ⟨hmem, hname⟩, hlt, -⟩
    · exact absurd hlen (Nat.not_le.mpr hlt)
    · have hle := hall kind hmem hname
      rw [length_payload] at hlt
      omega

/-- Bytes after an accepted buffer change nothing. -/
theorem decodeBuffer_append {d : DecodedEvent} (h : (decodeBuffer s t buffer).value = .ok d)
    (extra : Bytes) : decodeBuffer s t (buffer ++ extra) = decodeBuffer s t buffer := by
  rw [decodeBuffer_eq] at h
  rcases Framed.value_decode_eq_ok h with ⟨hframed, -⟩ | ⟨kind, payload, hframed, -⟩
  · rw [decodeBuffer_eq, decodeBuffer_eq, hframed, Framed.ofBuffer_append_unknown hframed]
  · have hsize := (Framed.ofBuffer_eq_record.mp hframed).2.2.2.2
    rw [decodeBuffer_eq, decodeBuffer_eq, hframed, Framed.ofBuffer_append_record hframed,
      Framed.decode, Framed.decode, Event.decodeKind_append _ _ _ hsize]

end Buffer

/-- What decoding promises for every buffer. -/
structure BufferContract (s : Surroundings) (t : Table) (buffer : Bytes) : Prop where
  /-- No read fails. -/
  in_bounds : decodeBuffer? s t buffer = some (decodeBuffer s t buffer)
  truncated_header : ∀ length,
    (decodeBuffer s t buffer).value = .error (.truncatedHeader length) ↔
      buffer.length < 88 ∧ length = buffer.length
  truncated_payload : ∀ event expected actual,
    (decodeBuffer s t buffer).value = .error (.truncatedPayload event expected actual) ↔
      88 ≤ buffer.length ∧
        (∃ kind ∈ Kind.all, kind.name = (Header.front buffer).name ∧ event = kind.name ∧
          expected = kind.payloadSize) ∧
        actual = buffer.length - 88 ∧ actual < expected
  accepted : (∃ d, (decodeBuffer s t buffer).value = .ok d) ↔
    88 ≤ buffer.length ∧ ∀ kind ∈ Kind.all, kind.name = (Header.front buffer).name →
      kind.payloadSize ≤ buffer.length - 88
  /-- On error the table stays, and nothing is asked. -/
  atomic : ∀ e, (decodeBuffer s t buffer).value = .error e →
    (decodeBuffer s t buffer).table = t ∧ (decodeBuffer s t buffer).asked = []
  /-- Bytes after an accepted buffer change nothing of the outcome. -/
  extended : ∀ d, (decodeBuffer s t buffer).value = .ok d →
    ∀ extra, decodeBuffer s t (buffer ++ extra) = decodeBuffer s t buffer

theorem buffer_contract (s : Surroundings) (t : Table) (buffer : Bytes) :
    BufferContract s t buffer where
  in_bounds := decodeBuffer?_eq s t buffer
  truncated_header _ := decodeBuffer_truncated_header
  truncated_payload _ _ _ := decodeBuffer_truncated_payload
  accepted := decodeBuffer_accepted
  atomic := by
    intro e h
    rw [decodeBuffer_eq_error] at h
    rw [decodeBuffer_eq, h]
    exact ⟨rfl, rfl⟩
  extended _ h extra := decodeBuffer_append h extra

/-- **Decoding is total, accepts exactly the complete records, and is atomic on error**, for every
table, whatever is answered and whatever others do meanwhile. -/
theorem decoding_contract (s : Surroundings) (t : Table) :
    (∀ buffer, BufferContract s t buffer) ∧
      ∀ header payload, PayloadContract s t header payload :=
  ⟨buffer_contract s t, payload_contract s t⟩

/-- The names and the payload sizes that the contract speaks of. -/
example : Kind.all.map (fun kind => (kind.name, kind.payloadSize)) = [
    ("chmod", 264), ("chown", 264), ("close", 8), ("fchmod", 16), ("fchmodat", 272),
    ("fchown", 16), ("fchownat", 280), ("mkdir", 264), ("mkdirat", 272), ("open", 272),
    ("read", 272), ("write", 272), ("fd_install", 32), ("connect_v4", 16), ("accept_v4", 16),
    ("close_v4", 16), ("connect_v6", 40), ("accept_v6", 40), ("close_v6", 40)] := by
  decide

end Tracepoint
