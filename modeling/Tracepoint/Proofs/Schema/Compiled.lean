import Mathlib
import Tracepoint.Schema.Format

/-!
# What a compiled format looks like

The three tables of types are kept apart; this file proves that they say the same, and from that
what the three descriptions of any compiled format have in common.

* `recordType?_eq`, `wireType?_eq` — the record type and the wire type of a kernel type follow
  from its decoded type;
* `Compiled.ofFormat_ok` — a compiled format is made of fields whose types all come from the
  tables;
* `Compiled.ofFormat_records`, `Compiled.ofFormat_messages` — parameter by parameter, the record
  and the message carry the decoded parameter.
-/

set_option autoImplicit false

namespace Tracepoint

/-! ## The tables agree -/

namespace DecoderType

/-- The record type with the width and the sign of a decoded type. -/
def recorded : DecoderType → RecordType
  | .buffer => .char
  | .i32 => .s32
  | .u32 => .u32
  | .i64 => .s64
  | .u64 => .u64

/-- The wire type with the range of a decoded type. -/
def carried : DecoderType → WireType
  | .buffer => .bytes
  | .i32 => .int32
  | .u32 => .uint32
  | .i64 => .int64
  | .u64 => .uint64

@[simp] theorem storage_recorded (ty : DecoderType) : ty.recorded.storage = ty.storage := by
  cases ty <;> rfl

end DecoderType

/-- Both tables list the same kernel types, with types that correspond. -/
theorem recordTypes_eq : recordTypes = decoderTypes.map fun e => (e.1, e.2.recorded) := rfl

theorem lookup_map_snd {κ α β : Type} [BEq κ] (f : α → β) (k : κ) (pairs : List (κ × α)) :
    (pairs.map fun e => (e.1, f e.2)).lookup k = (pairs.lookup k).map f := by
  induction pairs with
  | nil => rfl
  | cons e pairs ih =>
    obtain ⟨k', a⟩ := e
    simp only [List.map_cons, List.lookup_cons]
    cases k == k' <;> simp [ih]

theorem recordType?_eq (kernelType : String) :
    recordType? kernelType = (decoderType? kernelType).map DecoderType.recorded := by
  unfold recordType? decoderType?
  rw [recordTypes_eq, lookup_map_snd]

theorem wireType?_eq (ty : DecoderType) : wireType? ty = some ty.carried := by
  cases ty <;> rfl

/-! ## Fields -/

namespace Field

/-- A field whose three types are those of its kernel type. -/
structure Mapped (field : Field) : Prop where
  decoder : decoderType? field.kernelType = some field.decoder
  record : field.record = field.decoder.recorded
  wire : field.wire = field.decoder.carried

theorem ofDeclaration_mapped {syscall kernelType name : String} {field : Field}
    (h : ofDeclaration syscall kernelType name = .ok field) : field.Mapped := by
  unfold ofDeclaration at h
  rw [recordType?_eq] at h
  cases hd : decoderType? kernelType with
  | none => simp [hd] at h
  | some decoder =>
    simp only [hd, Option.map_some, wireType?_eq] at h
    cases h
    exact ⟨hd, rfl, rfl⟩

theorem ofLine_mapped {syscall : String} {line : List Char} {field : Field}
    (h : ofLine syscall line = .ok (some field)) : field.Mapped := by
  unfold ofLine at h
  split at h
  · cases h
  · split at h
    · cases h
    · split at h
      · cases h
      · rename_i hdecl
        cases h
        exact ofDeclaration_mapped hdecl

/-- What holds of the field of any line holds of the fields of all lines. -/
theorem forall_ofLines {syscall : String} {P : Field → Prop}
    (hline : ∀ line field, ofLine syscall line = .ok (some field) → P field)
    {lines : List (List Char)} {fields : List Field} (h : ofLines syscall lines = .ok fields) :
    ∀ field ∈ fields, P field := by
  induction lines generalizing fields with
  | nil =>
    cases h
    simp
  | cons line lines ih =>
    unfold ofLines at h
    split at h
    · cases h
    · exact ih h
    · rename_i field hfield
      split at h
      · cases h
      · rename_i others hothers
        cases h
        exact List.forall_mem_cons.mpr ⟨hline line field hfield, ih hothers⟩

theorem ofLines_mapped {syscall : String} {lines : List (List Char)} {fields : List Field}
    (h : ofLines syscall lines = .ok fields) : ∀ field ∈ fields, field.Mapped :=
  forall_ofLines (fun _ _ => ofLine_mapped) h

theorem label_param {τ : Type} (field : Field) (position : Nat) (ty : τ) :
    (field.param position ty).label = Text.camelCase field.name := by
  simp only [param]

theorem needsPath_param {τ : Type} (field : Field) (position : Nat) (ty : τ) :
    (field.param position ty).needsPath = isDescriptorLabel (Text.camelCase field.name) := by
  simp only [param]

/-- Positions count the fields that are kept. -/
theorem getElem?_params {τ : Type} (ty : Field → τ) (fields : List Field) (i : Nat) :
    (params ty fields)[i]? = fields[i]?.map fun field => field.param i (ty field) := by
  rw [params, List.getElem?_map, List.getElem?_zipIdx, Option.map_map]
  simp only [Nat.zero_add]
  rfl

end Field

/-! ## Descriptions -/

/-- A parameter and the record field that it is read from. -/
structure Param.RecordedAs (d : Param DecoderType) (r : Param RecordType) : Prop where
  name : r.name = d.name
  position : r.position = d.position
  ty : r.ty = d.ty.recorded

/-- A parameter and the message field that it travels in. -/
structure Param.CarriedAs (d : Param DecoderType) (w : Param WireType) : Prop where
  name : w.name = d.name
  position : w.position = d.position
  ty : w.ty = d.ty.carried

namespace Compiled

theorem ofFormat_eq_ok {name format : String} {c : Compiled} :
    ofFormat name format = .ok c ↔
      ∃ fields, Field.ofLines name (fieldLines format) = .ok fields ∧ ofFields name fields = c := by
  rw [ofFormat]
  cases Field.ofLines name (fieldLines format) <;> simp

theorem ofFormat_ok {name format : String} {c : Compiled} (h : ofFormat name format = .ok c) :
    ∃ fields, c = ofFields name fields ∧ ∀ field ∈ fields, field.Mapped := by
  obtain ⟨fields, hfields, rfl⟩ := ofFormat_eq_ok.mp h
  exact ⟨fields, rfl, Field.ofLines_mapped hfields⟩

/-- What two targets make of mapped fields is related parameter by parameter. -/
theorem forall₂_params {τ υ : Type} {R : Param τ → Param υ → Prop} {ty : Field → τ}
    {ty' : Field → υ} {fields : List Field}
    (h : ∀ field ∈ fields, ∀ i, R (field.param i (ty field)) (field.param i (ty' field))) :
    List.Forall₂ R (Field.params ty fields) (Field.params ty' fields) := by
  unfold Field.params
  rw [List.forall₂_map_left_iff, List.forall₂_map_right_iff, List.forall₂_same]
  rintro ⟨field, i⟩ hmem
  exact h field (List.fst_mem_of_mem_zipIdx hmem) i

/-- **The record of a compiled syscall has the decoded parameters**, in order. -/
theorem ofFormat_records {name format : String} {c : Compiled}
    (h : ofFormat name format = .ok c) :
    List.Forall₂ Param.RecordedAs c.decoder.params c.record.params := by
  obtain ⟨fields, rfl, hmapped⟩ := ofFormat_ok h
  exact forall₂_params fun field hf _ => ⟨rfl, rfl, (hmapped field hf).record⟩

/-- **The message of a compiled syscall has the decoded parameters**, in order. -/
theorem ofFormat_messages {name format : String} {c : Compiled}
    (h : ofFormat name format = .ok c) :
    List.Forall₂ Param.CarriedAs c.decoder.params c.wire.params := by
  obtain ⟨fields, rfl, hmapped⟩ := ofFormat_ok h
  exact forall₂_params fun field hf _ => ⟨rfl, rfl, (hmapped field hf).wire⟩

end Compiled

end Tracepoint
