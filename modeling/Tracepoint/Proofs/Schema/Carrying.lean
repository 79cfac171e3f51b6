import Mathlib
import Tracepoint.Proofs.Artifact.Execution
import Tracepoint.Proofs.Record.RoundTrip
import Tracepoint.Proofs.Schema.Alignment

/-!
# What aligned schemas can carry

A value is written at the record type of a parameter, read at its decoded type and sent at its wire
type.  The check of alignment compares the first two by width, sign and shape, and the last two by
width alone.

* `DecoderType.readsBack_of_matches` — a record type that passes is stored as the decoded type is;
* `DecoderType.carriedBy_iff` — which wire types carry every value of a decoded type;
* `carrying_contract` — what that means for schemas that pass the check;
* `narrowed_loses` — schemas that pass it, and values that the message cannot carry.
-/

set_option autoImplicit false

namespace Tracepoint

instance : (w : WireType) → (v : WireValue) → Decidable (w.Holds v)
  | .bytes, .bytes _ | .string, .text _ => inferInstanceAs (Decidable True)
  | .int32, .int i => inferInstanceAs (Decidable ((Storage.int 4 true).Fits (.int i)))
  | .uint32, .int i => inferInstanceAs (Decidable ((Storage.int 4 false).Fits (.int i)))
  | .int64, .int i => inferInstanceAs (Decidable ((Storage.int 8 true).Fits (.int i)))
  | .uint64, .int i => inferInstanceAs (Decidable ((Storage.int 8 false).Fits (.int i)))
  | .bytes, .int _ | .bytes, .text _ | .string, .int _ | .string, .bytes _ | .int32, .bytes _
  | .int32, .text _ | .uint32, .bytes _ | .uint32, .text _ | .int64, .bytes _ | .int64, .text _
  | .uint64, .bytes _ | .uint64, .text _ => inferInstanceAs (Decidable False)

namespace DecoderType

/-! ## Records -/

/-- Whatever is written at the record type reads back at the decoded type. -/
def ReadsBack (d : DecoderType) (r : RecordType) : Prop :=
  ∀ v, r.storage.Fits v → ∀ rest, d.storage.read (r.storage.encode v ++ rest) = (v, rest)

/-- **A record type that passes the check is stored as the decoded type is.** -/
theorem storage_of_matches {d : DecoderType} {r : RecordType}
    (h : Schemas.recordMatches d r = true) : r.storage = d.storage := by
  cases d <;> cases r <;> first | rfl | exact absurd h (by decide)

theorem readsBack_of_matches {d : DecoderType} {r : RecordType}
    (h : Schemas.recordMatches d r = true) : d.ReadsBack r := by
  intro v hv rest
  rw [storage_of_matches h] at hv ⊢
  exact Storage.read_encode_append hv rest

/-! ## Messages -/

/-- Every value of the decoded type can be sent at the wire type, unchanged. -/
def CarriedBy (d : DecoderType) (w : WireType) : Prop :=
  ∀ v, d.storage.Fits v → w.Holds v.wire

/-- What it takes to carry a decoded type: bytes for a buffer, and for a number a type of its sign
that is as wide, or a wider signed type for an unsigned number. -/
def isCoveredBy (d : DecoderType) (w : WireType) : Bool :=
  if d.isBuffer then w = .bytes
  else
    match w.size? with
    | none => false
    | some size =>
      if d.isSigned = w.isSigned then d.size ≤ size else w.isSigned && d.size < size

/-- The lowest and the highest value of a type. -/
def extremes : DecoderType → List Value
  | .buffer => [.bytes (List.replicate maxBufferSize 0)]
  | .i32 => [.int (-2 ^ 31), .int (2 ^ 31 - 1)]
  | .u32 => [.int 0, .int (2 ^ 32 - 1)]
  | .i64 => [.int (-2 ^ 63), .int (2 ^ 63 - 1)]
  | .u64 => [.int 0, .int (2 ^ 64 - 1)]

theorem extremes_fit {d : DecoderType} {v : Value} (h : v ∈ d.extremes) : d.storage.Fits v := by
  cases d with
  | buffer =>
    obtain rfl := List.mem_singleton.mp h
    exact List.length_replicate
  | i32 => exact (by decide : ∀ v ∈ extremes .i32, (storage .i32).Fits v) v h
  | u32 => exact (by decide : ∀ v ∈ extremes .u32, (storage .u32).Fits v) v h
  | i64 => exact (by decide : ∀ v ∈ extremes .i64, (storage .i64).Fits v) v h
  | u64 => exact (by decide : ∀ v ∈ extremes .u64, (storage .u64).Fits v) v h

/-- A type that does not cover another loses its lowest or its highest value. -/
theorem exists_lost {d : DecoderType} {w : WireType} (h : d.isCoveredBy w = false) :
    ∃ v ∈ d.extremes, ¬ w.Holds v.wire := by
  cases d <;> cases w <;> first | exact absurd h (by decide) | decide

theorem fits_of_wider {width width' : Nat} (h : width ≤ width') {signed : Bool} {i : Int}
    (hi : (Storage.int width signed).Fits (.int i)) :
    (Storage.int width' signed).Fits (.int i) := by
  have hcap := LittleEndian.capacity_mono h
  cases signed with
  | true =>
    obtain ⟨hlo, hhi⟩ := hi
    exact ⟨by omega, by omega⟩
  | false =>
    obtain ⟨hlo, hhi⟩ := hi
    exact ⟨hlo, by omega⟩

theorem fits_signed_of_unsigned {width width' : Nat} (h : width < width') {i : Int}
    (hi : (Storage.int width false).Fits (.int i)) : (Storage.int width' true).Fits (.int i) := by
  have hcap := LittleEndian.capacity_mono (Nat.succ_le_of_lt h)
  rw [Nat.succ_eq_add_one, LittleEndian.capacity] at hcap
  obtain ⟨hlo, hhi⟩ := hi
  exact ⟨by omega, by omega⟩

theorem carriedBy_of_isCoveredBy {d : DecoderType} {w : WireType} (h : d.isCoveredBy w = true) :
    d.CarriedBy w := by
  intro v hv
  cases d <;> cases v <;> first | exact hv.elim | skip
  all_goals cases w <;> first | exact absurd h (by decide) | skip
  -- what is left are the pairs that cover
  · trivial
  · exact hv
  · exact fits_of_wider (by decide) hv
  · exact hv
  · exact fits_signed_of_unsigned (by decide) hv
  · exact fits_of_wider (by decide) hv
  · exact hv
  · exact hv

/-- **Which wire types carry every value of a decoded type.** -/
theorem carriedBy_iff {d : DecoderType} {w : WireType} :
    d.CarriedBy w ↔ d.isCoveredBy w = true := by
  refine ⟨fun h => ?_, carriedBy_of_isCoveredBy⟩
  by_contra hnot
  obtain ⟨v, hv, hlost⟩ := exists_lost (Bool.eq_false_iff.mpr hnot)
  exact hlost (h v (extremes_fit hv))

/-- The wire type that the table assigns covers the decoded type. -/
theorem isCoveredBy_carried (d : DecoderType) : d.isCoveredBy d.carried = true := by
  cases d <;> rfl

end DecoderType

/-! ## Schemas -/

/-- The three descriptions of one parameter: at one position, of syscalls at one place. -/
def Schemas.Describe (schemas : Schemas) (p : Param DecoderType) (q : Param RecordType)
    (m : Param WireType) : Prop :=
  ∃ (i j : Nat) (d : Syscall DecoderType) (r : Syscall RecordType) (w : Syscall WireType),
    schemas.decoder[i]? = some d ∧ schemas.record[i]? = some r ∧ schemas.wire[i]? = some w ∧
      d.params[j]? = some p ∧ r.params[j]? = some q ∧ w.params[j]? = some m

/-- What schemas that pass the check promise of the values of parameters. -/
structure Schemas.CarryingContract (schemas : Schemas) : Prop where
  /-- Every parameter has its three descriptions. -/
  described : ∀ d ∈ schemas.decoder, ∀ p ∈ d.params, ∃ q m, schemas.Describe p q m
  /-- What is written at the record type reads back at the decoded type. -/
  readsBack : ∀ p q m, schemas.Describe p q m → p.ty.ReadsBack q.ty
  /-- The message carries all that is decoded exactly if the wire type covers the decoded type. -/
  carried_iff : ∀ p q m, schemas.Describe p q m →
    (p.ty.CarriedBy m.ty ↔ p.ty.isCoveredBy m.ty = true)
  /-- It does in schemas of syscalls that are compiled from formats. -/
  covered : ∀ sources cs, Compiled.FromFormats sources cs → schemas = Schemas.ofCompiled cs →
    ∀ p q m, schemas.Describe p q m → p.ty.isCoveredBy m.ty = true

namespace Compiled

/-- The wire types of a compiled syscall are those that the table assigns. -/
theorem carriedAs_of_ofFormat {name format : String} {c : Compiled}
    (h : ofFormat name format = .ok c) {j : Nat} {p : Param DecoderType} {m : Param WireType}
    (hp : c.decoder.params[j]? = some p) (hm : c.wire.params[j]? = some m) : p.CarriedAs m := by
  obtain ⟨hj, rfl⟩ := List.getElem?_eq_some_iff.mp hp
  obtain ⟨hj', rfl⟩ := List.getElem?_eq_some_iff.mp hm
  exact (ofFormat_messages h).get hj hj'

theorem FromFormats.exists_ofFormat {sources : List (String × String)} {cs : List Compiled}
    (h : FromFormats sources cs) : ∀ c ∈ cs, ∃ name format, ofFormat name format = .ok c := by
  induction h with
  | nil => simp
  | cons hsource _ ih => exact List.forall_mem_cons.mpr ⟨⟨_, _, hsource⟩, ih⟩

/-- Compiled wire types cover what is decoded. -/
theorem isCoveredBy_of_describe {sources : List (String × String)} {cs : List Compiled}
    (h : FromFormats sources cs) {p : Param DecoderType} {q : Param RecordType}
    {m : Param WireType} (hp : (Schemas.ofCompiled cs).Describe p q m) :
    p.ty.isCoveredBy m.ty = true := by
  obtain ⟨i, j, d, r, w, hd, -, hw, hpd, -, hmw⟩ := hp
  simp only [Schemas.ofCompiled, List.getElem?_map, Option.map_eq_some_iff] at hd hw
  obtain ⟨c, hc, rfl⟩ := hd
  obtain ⟨c', hc', rfl⟩ := hw
  obtain rfl : c = c' := Option.some.inj (hc.symm.trans hc')
  obtain ⟨name, format, hok⟩ := h.exists_ofFormat c (List.mem_of_getElem? hc)
  rw [(carriedAs_of_ofFormat hok hpd hmw).ty]
  exact p.ty.isCoveredBy_carried

end Compiled

namespace Schemas.Aligned

variable {schemas : Schemas}

theorem param (h : schemas.Aligned) {p : Param DecoderType} {q : Param RecordType}
    {m : Param WireType} (hp : schemas.Describe p q m) : ∃ j, Param.Aligned j p q m := by
  obtain ⟨i, j, d, r, w, hd, hr, hw, hpd, hqr, hmw⟩ := hp
  exact ⟨j, (h.syscalls i d r w hd hr hw).params j p q m hpd hqr hmw⟩

theorem described (h : schemas.Aligned) :
    ∀ d ∈ schemas.decoder, ∀ p ∈ d.params, ∃ q m, schemas.Describe p q m := by
  intro d hd p hp
  obtain ⟨i, hi, rfl⟩ := List.mem_iff_getElem.mp hd
  obtain ⟨j, hj, rfl⟩ := List.mem_iff_getElem.mp hp
  have hr : i < schemas.record.length := h.record_length ▸ hi
  have hw : i < schemas.wire.length := h.wire_length ▸ hi
  have hsyscall := h.syscalls i _ _ _ (List.getElem?_eq_getElem hi) (List.getElem?_eq_getElem hr)
    (List.getElem?_eq_getElem hw)
  have hq : j < schemas.record[i].params.length := hsyscall.record_length ▸ hj
  have hm : j < schemas.wire[i].params.length := hsyscall.wire_length ▸ hj
  exact ⟨_, _, i, j, _, _, _, List.getElem?_eq_getElem hi, List.getElem?_eq_getElem hr,
    List.getElem?_eq_getElem hw, List.getElem?_eq_getElem hj, List.getElem?_eq_getElem hq,
    List.getElem?_eq_getElem hm⟩

theorem carryingContract (h : schemas.Aligned) : schemas.CarryingContract where
  described := h.described
  readsBack p q m hp := by
    obtain ⟨j, hparam⟩ := h.param hp
    exact DecoderType.readsBack_of_matches hparam.record_type
  carried_iff _ _ _ _ := DecoderType.carriedBy_iff
  covered := by
    rintro sources cs hcs rfl p q m hp
    exact Compiled.isCoveredBy_of_describe hcs hp

end Schemas.Aligned

/-- **What the check of alignment promises of values.**  In schemas that pass it, whatever is
written at a record type reads back at the decoded type, and travels unchanged if the wire type
covers the decoded type, and only then; for compiled syscalls every wire type does. -/
theorem carrying_contract {schemas : Schemas} (h : schemas.checkAligned = .ok ()) :
    schemas.CarryingContract :=
  (Schemas.checkAligned_eq_ok.mp h).carryingContract

/-- A syscall with a signed number and a buffer, sent as an unsigned and as a narrow number. -/
def narrowed : Schemas :=
  { decoder := [⟨"open", "OpenEvent", .nulTerminated,
      [⟨0, "a", "A", "t", .i64, false⟩, ⟨1, "b", "B", "t", .buffer, false⟩]⟩]
    record := [⟨"open", "OpenRecord", .nulTerminated,
      [⟨0, "a", "A", "t", .s64, false⟩, ⟨1, "b", "B", "t", .char, false⟩]⟩]
    wire := [⟨"open", "ProtobufOpenEvent", .nulTerminated,
      [⟨0, "a", "A", "t", .uint64, false⟩, ⟨1, "b", "B", "t", .int32, false⟩]⟩] }

theorem checkAligned_narrowed : narrowed.checkAligned = .ok () := by
  decide +kernel

/-- What `narrowed` reads back, it may not carry. -/
theorem carrying_narrowed :
    narrowed.checkAligned = .ok () ∧ narrowed.CarryingContract :=
  ⟨checkAligned_narrowed, carrying_contract checkAligned_narrowed⟩

/-- **Passing the check does not suffice**: the message has no room for a negative number, nor for
any buffer at all. -/
theorem narrowed_loses :
    narrowed.checkAligned = .ok () ∧
      (∃ p q m, narrowed.Describe p q m ∧
        p.ty.storage.Fits (.int (-1)) ∧ ¬ m.ty.Holds (Value.int (-1)).wire) ∧
      ∃ p q m, narrowed.Describe p q m ∧
        ∀ v, p.ty.storage.Fits v → ¬ m.ty.Holds v.wire := by
  refine ⟨checkAligned_narrowed, ?_, ?_⟩
  · exact ⟨_, _, _, ⟨0, 0, _, _, _, rfl, rfl, rfl, rfl, rfl, rfl⟩, by decide, by decide⟩
  · refine ⟨_, _, _, ⟨0, 1, _, _, _, rfl, rfl, rfl, rfl, rfl, rfl⟩, ?_⟩
    intro v hv
    cases v with
    | int i => exact hv.elim
    | bytes b => exact id

end Tracepoint
