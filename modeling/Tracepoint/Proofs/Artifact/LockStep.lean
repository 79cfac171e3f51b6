import Mathlib
import Tracepoint.Artifact.Message
import Tracepoint.Proofs.Artifact.Execution
import Tracepoint.Proofs.Record.RoundTrip

/-!
# Record, decoder and message in lock-step

The three things generated for one compiled syscall fit each other byte for byte.  Values written
as the record that the probe writes are read back by the decoder at its own types, and the message
made of them carries the same values, field by field.

* `fill_read`, `fill_write` — the initials of a decoder read one field each, and undo the record;
* `exportFields_slots` — looking the fields up by name finds the values by position;
* `generated_in_lock_step` — the whole of it, for every format that compiles.
-/

set_option autoImplicit false

namespace Tracepoint.Artifact

open DecoderTree

/-! ## What decoding fills -/

/-- The struct fields of one parameter once its value is read. -/
def paramSlots (p : Param DecoderType) (v : Value) : Struct :=
  (rustField p.name, .value v) :: if p.needsPath then [(pathField p.name, .path "")] else []

/-- The struct once all values are read. -/
def slots (params : List (Param DecoderType)) (values : List Value) : Struct :=
  (List.zipWith paramSlots params values).flatten

@[simp] theorem slots_cons (p : Param DecoderType) (params : List (Param DecoderType)) (v : Value)
    (values : List Value) :
    slots (p :: params) (v :: values) = paramSlots p v ++ slots params values :=
  rfl

theorem fill_param (p : Param DecoderType) (r : Param RecordType)
    (initials : List (String × Initial)) (payload : Bytes) :
    fill (paramInitials p r ++ initials) payload =
      (paramSlots p (r.ty.storage.read payload).1 ++
          (fill initials (r.ty.storage.read payload).2).1,
        (fill initials (r.ty.storage.read payload).2).2) := by
  unfold paramInitials paramSlots
  cases p.needsPath <;> simp [fill]

/-- Where the probe writes what the decoder reads, both have one layout. -/
theorem storage_of_records {params : List (Param DecoderType)} {records : List (Param RecordType)}
    (h : List.Forall₂ Param.RecordedAs params records) :
    (records.map fun r => r.ty.storage) = params.map fun p => p.ty.storage := by
  induction h with
  | nil => rfl
  | cons hp _ ih =>
    rw [List.map_cons, List.map_cons, hp.ty, DecoderType.storage_recorded, ih]

/-- **One read for one field**: the initials read off a payload what the layout of the parameters
reads, and leave the same bytes. -/
theorem fill_read {params : List (Param DecoderType)} {records : List (Param RecordType)}
    (h : List.Forall₂ Param.RecordedAs params records) (payload : Bytes) :
    let read := Layout.read (params.map fun p => p.ty.storage) payload
    fill (List.zipWith paramInitials params records).flatten payload =
      (slots params read.1, read.2) := by
  induction h generalizing payload with
  | nil => rfl
  | cons hp _ ih =>
    rw [List.zipWith_cons_cons, List.flatten_cons, fill_param, ih, hp.ty,
      DecoderType.storage_recorded]
    rfl

/-- **Reading undoes writing**: the initials fill the struct with the values of the record, and
leave what follows it. -/
theorem fill_write {params : List (Param DecoderType)} {records : List (Param RecordType)}
    (h : List.Forall₂ Param.RecordedAs params records) {values : List Value}
    (hv : Layout.Fits (records.map fun r => r.ty.storage) values) (rest : Bytes) :
    fill (List.zipWith paramInitials params records).flatten
        (Layout.encode (records.map fun r => r.ty.storage) values ++ rest) =
      (slots params values, rest) := by
  rw [storage_of_records h] at hv ⊢
  rw [fill_read h, Layout.read_encode_append hv]

theorem readFields_append (s₁ s₂ : Struct) :
    readFields (s₁ ++ s₂) = readFields s₁ ++ readFields s₂ :=
  List.filterMap_append

theorem readFields_slots {params : List (Param DecoderType)} {values : List Value}
    (h : params.length = values.length) :
    readFields (slots params values) = (params.map fun p => rustField p.name).zip values := by
  induction params generalizing values with
  | nil => rfl
  | cons p params ih =>
    cases values with
    | nil => cases h
    | cons v values =>
      have hp : readFields (paramSlots p v) = [(rustField p.name, v)] := by
        unfold paramSlots
        cases p.needsPath <;> rfl
      rw [slots_cons, readFields_append, hp, ih (Nat.succ.inj h)]
      rfl

/-- The struct that is filled is one that the source declares. -/
theorem slots_admitted {params : List (Param DecoderType)} {values : List Value}
    (h : List.Forall₂ (fun p v => p.ty.storage.Fits v) params values) :
    List.Forall₂ (fun field slot => slot.1 = field.1 ∧ field.2.Admits slot.2)
      (params.flatMap paramFields) (slots params values) := by
  induction h with
  | nil => exact .nil
  | @cons p v params values hfit _ ih =>
    rw [List.flatMap_cons, slots_cons]
    refine List.rel_append ?_ ih
    unfold paramFields paramSlots
    cases p.needsPath
    · exact .cons ⟨rfl, _, storageOfType?_value p.ty, hfit⟩ .nil
    · exact .cons ⟨rfl, _, storageOfType?_value p.ty, hfit⟩ (.cons ⟨rfl, rfl⟩ .nil)

/-! ## What is exported -/

theorem paramExport_field (p : Param DecoderType) : (paramExport p).field = rustField p.name := by
  unfold paramExport
  split <;> rfl

/-- A buffer is copied whole, a number keeps its value. -/
theorem paramExport_ofValue? {p : Param DecoderType} {v : Value} (h : p.ty.storage.Fits v) :
    (paramExport p).ofValue? v = some v.wire := by
  unfold paramExport
  cases hty : p.ty <;> rw [hty] at h <;> cases v <;> first | rfl | exact h.elim

theorem lookup_of_mem {struct : Struct} (hnodup : (struct.map Prod.fst).Nodup) {name : String}
    {slot : Slot} (h : (name, slot) ∈ struct) : struct.lookup name = some slot := by
  obtain ⟨before, after, rfl⟩ := List.append_of_mem h
  refine List.lookup_eq_some_iff.mpr ⟨before, after, rfl, fun p hp => ?_⟩
  rw [List.map_append, List.map_cons, List.nodup_append] at hnodup
  simpa using (hnodup.2.2 p.1 (List.mem_map_of_mem hp) name List.mem_cons_self).symm

/-- In a struct that has no two fields of one name, every export finds its own field. -/
theorem exportFields_of_mem {struct : Struct} (hnodup : (struct.map Prod.fst).Nodup)
    {params : List (Param DecoderType)} {values : List Value}
    (h : List.Forall₂ (fun p v => p.ty.storage.Fits v) params values)
    (hmem : slots params values ⊆ struct) :
    exportFields struct (params.map paramExport) =
      some ((params.map fun p => rustField p.name).zip (values.map Value.wire)) := by
  induction h with
  | nil => rfl
  | @cons p v params values hfit _ ih =>
    rw [slots_cons, List.append_subset] at hmem
    have hfield : struct.lookup (rustField p.name) = some (.value v) :=
      lookup_of_mem hnodup (hmem.1 (by simp [paramSlots]))
    have hwire : (paramExport p).ofSlot? (.value v) = some v.wire := paramExport_ofValue? hfit
    rw [List.map_cons, exportFields, paramExport_field, hfield, ih hmem.2]
    simp [hwire]

/-- **Names find positions**: in a struct without two fields of one name, the exports build the
message of the values that were read. -/
theorem exportFields_slots {params : List (Param DecoderType)} {values : List Value}
    (h : List.Forall₂ (fun p v => p.ty.storage.Fits v) params values)
    (hnodup : ((slots params values).map Prod.fst).Nodup) :
    exportFields (slots params values) (params.map paramExport) =
      some ((params.map fun p => rustField p.name).zip (values.map Value.wire)) :=
  exportFields_of_mem hnodup h (List.Subset.refl _)

/-! ## Lock-step -/

/-- The line that tells the size of a payload. -/
def payloadSizeLine (size : Nat) : String :=
  "    pub const PAYLOAD_SIZE: usize = " ++ toString size ++ ";"

theorem DecoderTree.payloadSizeLine_mem (t : DecoderTree) :
    payloadSizeLine t.payloadSize ∈ t.lines := by
  refine List.mem_append_left _ (List.mem_append_right _ ?_)
  iterate 6 refine List.mem_append_left _ ?_
  exact List.mem_of_getElem? (i := 5) rfl

theorem RecordStruct.payloadSizeLine_mem (r : RecordStruct) :
    payloadSizeLine r.payloadSize ∈ r.lines :=
  List.mem_append_right _ (List.mem_of_getElem? (i := 4) rfl)

/-- The struct that a decoder fills from a record of the given values, with what a message makes
of it. -/
structure LockStep (decoder : DecoderTree) (record : RecordStruct) (message : Message)
    (values : List Value) (struct : Struct) : Prop where
  /-- Both sources tell the size of the payload by one number, that of the bytes of the values. -/
  decoder_size : decoder.payloadSize = (record.write values).length
  record_size : record.payloadSize = (record.write values).length
  decoder_line : payloadSizeLine (record.write values).length ∈ decoder.lines
  record_line : payloadSizeLine (record.write values).length ∈ record.lines
  /-- The fields that are read have the names and the values of the record, in order. -/
  read : readFields struct = (record.fields.map Prod.fst).zip values
  /-- The struct has the declared fields, and each can hold what is in it. -/
  declared : List.Forall₂ (fun field slot => slot.1 = field.1 ∧ field.2.Admits slot.2)
    decoder.fields struct
  /-- Each export is of the field that was read at its position, and keeps its value. -/
  exported : List.Forall₂ (fun (e : Export) field => e.field = field.1 ∧
    e.ofValue? field.2 = some field.2.wire) decoder.exports (readFields struct)
  /-- Each export goes into the field of the message at its position. -/
  targets : decoder.exports.map Export.field = message.fields.map fun field => rustField field.1
  /-- Each field of the message has room for the value at its position. -/
  held : List.Forall₂ (fun field v => field.2.Holds (Value.wire v)) message.fields values
  /-- Looked up by name, as long as names tell the fields of the struct apart, the message is made
  of the values of the record. -/
  message_eq : (decoder.fields.map Prod.fst).Nodup →
    exportFields struct decoder.exports =
      some ((message.fields.map fun field => rustField field.1).zip (values.map Value.wire))

theorem fits_decoded {params : List (Param DecoderType)} {records : List (Param RecordType)}
    (h : List.Forall₂ Param.RecordedAs params records) {values : List Value}
    (hv : Layout.Fits (records.map fun r => r.ty.storage) values) :
    List.Forall₂ (fun p v => p.ty.storage.Fits v) params values := by
  rw [storage_of_records h] at hv
  exact List.forall₂_map_left_iff.mp hv

theorem recorded_names {params : List (Param DecoderType)} {records : List (Param RecordType)}
    (h : List.Forall₂ Param.RecordedAs params records) :
    records.map (fun r => rustField r.name) = params.map fun p => rustField p.name := by
  induction h with
  | nil => rfl
  | cons hp _ ih => rw [List.map_cons, List.map_cons, hp.name, ih]

theorem carried_names {params : List (Param DecoderType)} {messages : List (Param WireType)}
    (h : List.Forall₂ Param.CarriedAs params messages) :
    messages.map (fun w => rustField w.name) = params.map fun p => rustField p.name := by
  induction h with
  | nil => rfl
  | cons hp _ ih => rw [List.map_cons, List.map_cons, hp.name, ih]

theorem carried_held {params : List (Param DecoderType)} {messages : List (Param WireType)}
    (h : List.Forall₂ Param.CarriedAs params messages) {values : List Value}
    (hv : List.Forall₂ (fun p v => p.ty.storage.Fits v) params values) :
    List.Forall₂ (fun w v => w.ty.Holds (Value.wire v)) messages values := by
  induction h generalizing values with
  | nil =>
    cases hv
    exact .nil
  | cons hp _ ih =>
    cases hv with
    | cons hfit hv => exact .cons (hp.ty ▸ DecoderType.carried_holds hfit) (ih hv)

theorem exports_of_values {params : List (Param DecoderType)} {values : List Value}
    (h : List.Forall₂ (fun p v => p.ty.storage.Fits v) params values) :
    List.Forall₂ (fun (e : Export) field => e.field = field.1 ∧
        e.ofValue? field.2 = some field.2.wire)
      (params.map paramExport) ((params.map fun p => rustField p.name).zip values) := by
  induction h with
  | nil => exact .nil
  | cons hfit _ ih => exact .cons ⟨paramExport_field _, paramExport_ofValue? hfit⟩ ih

theorem declared_names {fields : List (String × FieldType)} {struct : Struct}
    (h : List.Forall₂ (fun field slot => slot.1 = field.1 ∧ field.2.Admits slot.2) fields struct) :
    struct.map Prod.fst = fields.map Prod.fst := by
  induction h with
  | nil => rfl
  | cons hf _ ih => rw [List.map_cons, List.map_cons, hf.1, ih]

/-- The decoder, the record and the message of three descriptions that agree are in lock-step. -/
theorem lock_step_of_agree {d : Syscall DecoderType} {r : Syscall RecordType}
    {w : Syscall WireType} (hr : List.Forall₂ Param.RecordedAs d.params r.params)
    (hw : List.Forall₂ Param.CarriedAs d.params w.params) {values : List Value}
    (hv : r.recordLayout.Fits values) (rest : Bytes) :
    ∃ struct,
      (ofSyscall d r w.typeName).run ((RecordStruct.ofSyscall r).write values ++ rest) =
        some (struct, rest) ∧
      LockStep (ofSyscall d r w.typeName) (RecordStruct.ofSyscall r) (Message.ofSyscall w)
        values struct := by
  have hfits := fits_decoded hr hv
  have hdeclared := slots_admitted hfits
  have hread := readFields_slots hfits.length_eq
  have hwrite : (RecordStruct.ofSyscall r).write values = Layout.encode r.recordLayout values := by
    rw [RecordStruct.write, RecordStruct.layout_ofSyscall]
  have hsize : ((RecordStruct.ofSyscall r).write values).length = r.recordLayout.size := by
    rw [hwrite, Layout.length_encode hv.length_eq.symm]
  have hnames : (RecordStruct.ofSyscall r).fields.map Prod.fst =
      d.params.map fun p => rustField p.name := by
    rw [← recorded_names hr]
    simp [RecordStruct.ofSyscall]
  have htargets : (Message.ofSyscall w).fields.map (fun field => rustField field.1) =
      d.params.map fun p => rustField p.name := by
    rw [← carried_names hw]
    simp [Message.ofSyscall]
  refine ⟨slots d.params values, ?_, ?_⟩
  · have hlong : ¬ ((RecordStruct.ofSyscall r).write values ++ rest).length <
        (ofSyscall d r w.typeName).payloadSize := by
      rw [List.length_append, hsize]
      exact Nat.not_lt.mpr (Nat.le_add_right _ _)
    rw [run, if_neg hlong, hwrite]
    exact congrArg some (fill_write hr hv rest)
  · exact
      { decoder_size := hsize.symm
        record_size := hsize.symm
        decoder_line := by
          rw [hsize]
          exact payloadSizeLine_mem (ofSyscall d r w.typeName)
        record_line := by
          rw [hsize]
          exact RecordStruct.payloadSizeLine_mem (RecordStruct.ofSyscall r)
        read := by rw [hread, hnames]
        declared := hdeclared
        exported := hread ▸ exports_of_values hfits
        targets := by
          rw [htargets]
          simp [ofSyscall, paramExport_field]
        held := by
          simpa [Message.ofSyscall, List.forall₂_map_left_iff] using carried_held hw hfits
        message_eq := fun hnodup => by
          rw [htargets]
          exact exportFields_slots hfits (by rwa [declared_names hdeclared]) }

/-- **Generated in lock-step.**  For every format that compiles, and for all values that the
fields of the record can hold: decoding the packed record, followed by anything, yields these
values at the decoded types and leaves what follows, the size of the payload is the one number in
both sources, and the message of the decoded struct carries the values field by field. -/
theorem generated_in_lock_step {name format : String} {c : Compiled}
    (hc : Compiled.ofFormat name format = .ok c) {values : List Value}
    (hv : c.record.recordLayout.Fits values) (rest : Bytes) :
    ∃ struct,
      (ofSyscall c.decoder c.record c.wire.typeName).run
          ((RecordStruct.ofSyscall c.record).write values ++ rest) = some (struct, rest) ∧
      LockStep (ofSyscall c.decoder c.record c.wire.typeName) (RecordStruct.ofSyscall c.record)
        (Message.ofSyscall c.wire) values struct :=
  lock_step_of_agree (Compiled.ofFormat_records hc) (Compiled.ofFormat_messages hc) hv rest

/-- A descriptor, a buffer and a negative count. -/
theorem read_in_lock_step :
    ∃ c, Compiled.ofFormat "read"
        "\n\tfield:unsigned int fd;\n\tfield:char * buf;\n\tfield:size_t count;\n" = .ok c ∧
      c.record.recordLayout.Fits [.int 3, .bytes (List.replicate 256 7), .int (-1)] ∧
      ∃ struct,
        (ofSyscall c.decoder c.record c.wire.typeName).run
            ((RecordStruct.ofSyscall c.record).write
              [.int 3, .bytes (List.replicate 256 7), .int (-1)] ++ [1, 2]) =
          some (struct, [1, 2]) ∧
        LockStep (ofSyscall c.decoder c.record c.wire.typeName) (RecordStruct.ofSyscall c.record)
          (Message.ofSyscall c.wire) [.int 3, .bytes (List.replicate 256 7), .int (-1)] struct := by
  let fields : List Field := [⟨"fd", "unsigned int", .u64, .u64, .uint64⟩,
    ⟨"buf", "char *", .buffer, .char, .bytes⟩, ⟨"count", "size_t", .i64, .s64, .int64⟩]
  have hc : Compiled.ofFormat "read"
      "\n\tfield:unsigned int fd;\n\tfield:char * buf;\n\tfield:size_t count;\n" =
        .ok (Compiled.ofFields "read" fields) := by rfl
  have hv : Layout.Fits [.int 8 false, .block 256, .int 8 true]
      [.int 3, .bytes (List.replicate 256 7), .int (-1)] :=
    .cons (by decide) (.cons List.length_replicate (.cons (by decide) .nil))
  exact ⟨_, hc, hv, generated_in_lock_step hc hv [1, 2]⟩

end Tracepoint.Artifact
