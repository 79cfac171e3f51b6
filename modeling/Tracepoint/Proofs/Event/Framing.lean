import Mathlib
import Tracepoint.Proofs.Event.Fields

/-!
# What a buffer is found to be

Decoding decides from the header and from lengths alone whether a buffer is rejected, has no
decoder, or is a record; only then is anything read, asked or changed.

* `Kind.ofName?_eq_some` — a name stands for one kind at most;
* `decodeBuffer_eq` — decoding is framing, and then decoding what was framed;
* `Framed.ofBuffer_eq_record`, `Framed.ofBuffer_eq_unknown`, `Framed.ofBuffer_eq_rejected` — which
  buffers are what.
-/

set_option autoImplicit false

namespace Tracepoint

/-! ## Kinds by name -/

namespace Kind

theorem nodup_names : (all.map name).Nodup := by
  decide

theorem ofName?_eq_some {n : String} {kind : Kind} :
    ofName? n = some kind ↔ kind ∈ all ∧ kind.name = n := by
  unfold ofName?
  constructor
  · intro h
    exact ⟨List.mem_of_find?_eq_some h, by simpa using List.find?_some h⟩
  · rintro ⟨hmem, rfl⟩
    obtain ⟨found, hfound⟩ := Option.isSome_iff_exists.mp
      (List.find?_isSome (p := fun k => decide (k.name = kind.name)).mpr ⟨kind, hmem, by simp⟩)
    have hname : found.name = kind.name := by simpa using List.find?_some hfound
    have hsame := List.inj_on_of_nodup_map nodup_names (List.mem_of_find?_eq_some hfound) hmem hname
    rw [hfound, hsame]

theorem ofName?_eq_none {n : String} : ofName? n = none ↔ ∀ kind ∈ all, kind.name ≠ n := by
  simp [ofName?]

end Kind

/-! ## Framing -/

/-- What a buffer is found to be before its payload is read. -/
inductive Framed where
  | rejected (error : DecodeError)
  /-- There is no decoder for its name. -/
  | unknown (header : Header)
  /-- A payload that is long enough, with what follows it. -/
  | record (header : Header) (kind : Kind) (payload : Bytes)
  deriving DecidableEq, Repr

namespace Framed

/-- What a payload after a header is found to be. -/
def ofPayload (header : Header) (payload : Bytes) : Framed :=
  match Kind.ofName? header.name with
  | none => .unknown header
  | some kind =>
    if payload.length < kind.payloadSize then
      .rejected (.truncatedPayload kind.name kind.payloadSize payload.length)
    else .record header kind payload

/-- What a buffer is found to be. -/
def ofBuffer (buffer : Bytes) : Framed :=
  if buffer.length < Header.size then .rejected (.truncatedHeader buffer.length)
  else ofPayload (Header.front buffer) (buffer.drop Header.size)

/-- Decodes what was framed: only a record is read. -/
def decode (s : Surroundings) (t : Table) : Framed → Outcome (Except DecodeError DecodedEvent)
  | .rejected e => Outcome.pure t (.error e)
  | .unknown header =>
    ⟨.ok ⟨header, .unknown⟩, t, [],
      [⟨.trace, "No decoder for " ++ Text.Quoted.quote header.name ++ " events"⟩]⟩
  | .record header kind payload =>
    (Event.decodeKind s t header.process payload kind).1.map fun event => .ok ⟨header, event⟩

end Framed

theorem Event.decode_fst (s : Surroundings) (t : Table) (header : Header) (payload : Bytes) :
    (Event.decode s t header payload).1.map (Except.map (⟨header, ·⟩)) =
      (Framed.ofPayload header payload).decode s t := by
  unfold Event.decode Framed.ofPayload ensurePayload
  cases Kind.ofName? header.name with
  | none => rfl
  | some kind =>
    simp only
    split_ifs <;> rfl

/-- **Decoding frames first.** -/
theorem decodeBuffer_eq (s : Surroundings) (t : Table) (buffer : Bytes) :
    decodeBuffer s t buffer = (Framed.ofBuffer buffer).decode s t := by
  unfold decodeBuffer Framed.ofBuffer
  rw [Header.decode_eq]
  split_ifs
  · rfl
  · exact Event.decode_fst s t _ _

namespace Framed

/-- Nothing but framing rejects. -/
theorem value_decode_eq_error (s : Surroundings) (t : Table) {f : Framed} {e : DecodeError} :
    (f.decode s t).value = .error e ↔ f = .rejected e := by
  cases f <;> simp [decode, Outcome.pure, Outcome.map]

theorem value_decode_eq_ok {s : Surroundings} {t : Table} {f : Framed} {d : DecodedEvent}
    (h : (f.decode s t).value = .ok d) :
    f = .unknown d.header ∧ d.event = .unknown ∨
      ∃ kind payload, f = .record d.header kind payload ∧ d.event.kind? = some kind ∧
        d.event = (Event.decodeKind s t d.header.process payload kind).1.value := by
  cases f with
  | rejected e => cases h
  | unknown header =>
    cases h
    exact .inl ⟨rfl, rfl⟩
  | record header kind payload =>
    cases h
    exact .inr ⟨kind, payload, rfl, Event.kind?_decodeKind _ _ _ _ _, rfl⟩

/-- A name stands for the one kind that was found. -/
theorem kind_unique {n : String} {found : Kind} (h : Kind.ofName? n = some found) (kind : Kind) :
    (kind ∈ Kind.all ∧ kind.name = n) ↔ kind = found := by
  rw [← Kind.ofName?_eq_some, h, Option.some.injEq, eq_comm]

theorem ofPayload_eq_record {header header' : Header} {kind : Kind} {payload payload' : Bytes} :
    ofPayload header payload = .record header' kind payload' ↔
      header' = header ∧ payload' = payload ∧ (kind ∈ Kind.all ∧ kind.name = header.name) ∧
        kind.payloadSize ≤ payload.length := by
  unfold ofPayload
  cases h : Kind.ofName? header.name with
  | none =>
    rw [Kind.ofName?_eq_none] at h
    simp only [reduceCtorEq, false_iff]
    rintro ⟨-, -, ⟨hmem, hname⟩, -⟩
    exact h kind hmem hname
  | some found =>
    rw [kind_unique h]
    simp only
    split_ifs with hlen
    · simp only [false_iff]
      rintro ⟨-, -, rfl, hsize⟩
      omega
    · rw [record.injEq]
      constructor
      · rintro ⟨rfl, rfl, rfl⟩
        exact ⟨rfl, rfl, rfl, by omega⟩
      · rintro ⟨rfl, rfl, rfl, -⟩
        exact ⟨rfl, rfl, rfl⟩

theorem ofPayload_eq_unknown {header header' : Header} {payload : Bytes} :
    ofPayload header payload = .unknown header' ↔
      header' = header ∧ ∀ kind ∈ Kind.all, kind.name ≠ header.name := by
  unfold ofPayload
  rw [← Kind.ofName?_eq_none]
  cases Kind.ofName? header.name with
  | none => simp [eq_comm]
  | some found =>
    simp only [reduceCtorEq, and_false, iff_false]
    split_ifs <;> exact nofun

theorem ofPayload_eq_rejected {header : Header} {payload : Bytes} {e : DecodeError} :
    ofPayload header payload = .rejected e ↔
      ∃ kind, (kind ∈ Kind.all ∧ kind.name = header.name) ∧ payload.length < kind.payloadSize ∧
        e = .truncatedPayload kind.name kind.payloadSize payload.length := by
  unfold ofPayload
  cases h : Kind.ofName? header.name with
  | none =>
    rw [Kind.ofName?_eq_none] at h
    simp only [reduceCtorEq, false_iff]
    rintro ⟨kind, ⟨hmem, hname⟩, -⟩
    exact h kind hmem hname
  | some found =>
    simp only [kind_unique h, exists_eq_left]
    split_ifs with hlen
    · rw [rejected.injEq]
      exact ⟨fun h => ⟨hlen, h.symm⟩, fun h => h.2.symm⟩
    · simp [hlen]

/-- The records of a kind: a header that names the kind, and a payload of its size at least. -/
theorem ofBuffer_eq_record {buffer payload : Bytes} {header : Header} {kind : Kind} :
    ofBuffer buffer = .record header kind payload ↔
      Header.size ≤ buffer.length ∧ header = Header.front buffer ∧
        payload = buffer.drop Header.size ∧ (kind ∈ Kind.all ∧ kind.name = header.name) ∧
          kind.payloadSize ≤ payload.length := by
  unfold ofBuffer
  split_ifs with hlen
  · simp only [false_iff]
    omega
  · rw [ofPayload_eq_record]
    constructor
    · rintro ⟨rfl, rfl, h⟩
      exact ⟨by omega, rfl, rfl, h⟩
    · rintro ⟨-, rfl, rfl, h⟩
      exact ⟨rfl, rfl, h⟩

theorem ofBuffer_eq_unknown {buffer : Bytes} {header : Header} :
    ofBuffer buffer = .unknown header ↔
      Header.size ≤ buffer.length ∧ header = Header.front buffer ∧
        ∀ kind ∈ Kind.all, kind.name ≠ header.name := by
  unfold ofBuffer
  split_ifs with hlen
  · simp only [false_iff]
    omega
  · rw [ofPayload_eq_unknown]
    constructor
    · rintro ⟨rfl, h⟩
      exact ⟨by omega, rfl, h⟩
    · rintro ⟨-, rfl, h⟩
      exact ⟨rfl, h⟩

/-- The buffers that are rejected: those that end within the header, or within a payload. -/
theorem ofBuffer_eq_rejected {buffer : Bytes} {e : DecodeError} :
    ofBuffer buffer = .rejected e ↔
      (buffer.length < Header.size ∧ e = .truncatedHeader buffer.length) ∨
      (Header.size ≤ buffer.length ∧
        ∃ kind, (kind ∈ Kind.all ∧ kind.name = (Header.front buffer).name) ∧
          (buffer.drop Header.size).length < kind.payloadSize ∧
          e = .truncatedPayload kind.name kind.payloadSize (buffer.drop Header.size).length) := by
  unfold ofBuffer
  split_ifs with hlen
  · rw [rejected.injEq]
    constructor
    · rintro rfl
      exact .inl ⟨hlen, rfl⟩
    · rintro (⟨-, rfl⟩ | ⟨hle, -⟩)
      · rfl
      · omega
  · rw [ofPayload_eq_rejected]
    constructor
    · intro h
      exact .inr ⟨by omega, h⟩
    · rintro (⟨hlt, -⟩ | ⟨-, h⟩)
      · omega
      · exact h

/-! ### What follows a record -/

theorem ofBuffer_append_record {buffer payload : Bytes} {header : Header} {kind : Kind}
    (h : ofBuffer buffer = .record header kind payload) (extra : Bytes) :
    ofBuffer (buffer ++ extra) = .record header kind (payload ++ extra) := by
  obtain ⟨hlen, rfl, rfl, hkind, hsize⟩ := ofBuffer_eq_record.mp h
  rw [ofBuffer_eq_record, Header.front_append hlen, List.drop_append_of_le_length hlen]
  exact ⟨by rw [List.length_append]; omega, rfl, rfl, hkind, by rw [List.length_append]; omega⟩

theorem ofBuffer_append_unknown {buffer : Bytes} {header : Header}
    (h : ofBuffer buffer = .unknown header) (extra : Bytes) :
    ofBuffer (buffer ++ extra) = .unknown header := by
  obtain ⟨hlen, rfl, hkind⟩ := ofBuffer_eq_unknown.mp h
  rw [ofBuffer_eq_unknown, Header.front_append hlen]
  exact ⟨by rw [List.length_append]; omega, rfl, hkind⟩

end Framed

end Tracepoint
