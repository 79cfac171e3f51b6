import Mathlib
import Tracepoint.Artifact.All
import Tracepoint.Proofs.Schema.Compiled
import Tracepoint.Proofs.Schema.Gathering

/-!
# What the generator accepts

`Schemas.Aligned` says field by field what it means for three descriptions to agree; the check is
one traversal of all of them that stops at the first disagreement.

* `Schemas.checkAligned_eq_ok` — the check passes exactly on aligned schemas;
* `Compiled.aligned` — whatever text a syscall is compiled from, its descriptions are aligned: all
  three are made from one list of fields, at types that correspond in the tables;
* `generator_contract` — so everything that is compiled is also generated, and of other schemas
  every text is refused for the same reason.
-/

set_option autoImplicit false

namespace Tracepoint

/-! ## Aligned schemas -/

/-- Three descriptions of the parameter at a position that fit together. -/
structure Param.Aligned (position : Nat) (d : Param DecoderType) (r : Param RecordType)
    (w : Param WireType) : Prop where
  decoder_position : d.position = position
  record_position : r.position = position
  wire_position : w.position = position
  record_name : d.name = r.name
  wire_name : d.name = w.name
  record_type : Schemas.recordMatches d.ty r.ty = true
  wire_type : Schemas.wireHolds d.ty w.ty = true

/-- Three descriptions of a syscall that fit together. -/
structure Syscall.Aligned (d : Syscall DecoderType) (r : Syscall RecordType)
    (w : Syscall WireType) : Prop where
  record_name : r.name = d.name
  wire_name : w.name = d.name
  record_length : d.params.length = r.params.length
  wire_length : d.params.length = w.params.length
  params : ∀ (i : Nat) (p : Param DecoderType) (q : Param RecordType) (m : Param WireType),
    d.params[i]? = some p → r.params[i]? = some q → w.params[i]? = some m → Param.Aligned i p q m

/-- Schemas with three descriptions of the same syscalls, which fit together. -/
structure Schemas.Aligned (schemas : Schemas) : Prop where
  nonempty : schemas.decoder ≠ []
  record_length : schemas.decoder.length = schemas.record.length
  wire_length : schemas.decoder.length = schemas.wire.length
  syscalls : ∀ (i : Nat) (d : Syscall DecoderType) (r : Syscall RecordType) (w : Syscall WireType),
    schemas.decoder[i]? = some d → schemas.record[i]? = some r → schemas.wire[i]? = some w →
      Syscall.Aligned d r w

/-! ## The check -/

/-- What holds side by side of three lists holds of their heads, and side by side of the rest. -/
theorem forall_getElem?_cons {α β γ : Type} {P : Nat → α → β → γ → Prop} {a : α} {b : β} {c : γ}
    {as : List α} {bs : List β} {cs : List γ} :
    (∀ i x y z, (a :: as)[i]? = some x → (b :: bs)[i]? = some y → (c :: cs)[i]? = some z →
      P i x y z) ↔
      P 0 a b c ∧ ∀ (i : Nat) (x : α) (y : β) (z : γ),
        as[i]? = some x → bs[i]? = some y → cs[i]? = some z → P (i + 1) x y z := by
  constructor
  · intro h
    exact ⟨h 0 a b c rfl rfl rfl, fun i => h (i + 1)⟩
  · rintro ⟨hhead, htail⟩ (_ | i) x y z hx hy hz
    · cases hx
      cases hy
      cases hz
      exact hhead
    · exact htail i x y z hx hy hz

namespace Schemas

theorem checkParam_eq_ok {syscall : String} {i : Nat} {d : Param DecoderType}
    {r : Param RecordType} {w : Param WireType} :
    checkParam syscall i d r w = .ok () ↔ Param.Aligned i d r w := by
  unfold checkParam
  constructor
  · intro h
    split at h
    · cases h
    rename_i hposition
    split at h
    · cases h
    rename_i hname
    split at h
    · cases h
    rename_i hrecord
    split at h
    · cases h
    rename_i hwire
    obtain ⟨hd, hr, hw⟩ := not_not.mp hposition
    obtain ⟨hnr, hnw⟩ := not_not.mp hname
    exact ⟨hd, hr, hw, hnr, hnw, not_not.mp hrecord, not_not.mp hwire⟩
  · rintro ⟨hd, hr, hw, hnr, hnw, hrecord, hwire⟩
    rw [if_neg (not_not.mpr ⟨hd, hr, hw⟩), if_neg (not_not.mpr ⟨hnr, hnw⟩),
      if_neg (not_not.mpr hrecord), if_neg (not_not.mpr hwire)]

/-- Side by side, as far as all three lists go. -/
theorem checkParams_eq_ok {syscall : String} {start : Nat} {ds : List (Param DecoderType)}
    {rs : List (Param RecordType)} {ws : List (Param WireType)} :
    checkParams syscall start ds rs ws = .ok () ↔
      ∀ (i : Nat) (d : Param DecoderType) (r : Param RecordType) (w : Param WireType),
        ds[i]? = some d → rs[i]? = some r → ws[i]? = some w → Param.Aligned (start + i) d r w := by
  induction ds generalizing start rs ws with
  | nil => simp [checkParams]
  | cons d ds ih =>
    cases rs with
    | nil => simp [checkParams]
    | cons r rs =>
      cases ws with
      | nil => simp [checkParams]
      | cons w ws =>
        have hhead : checkParams syscall start (d :: ds) (r :: rs) (w :: ws) = .ok () ↔
            Param.Aligned start d r w ∧ checkParams syscall (start + 1) ds rs ws = .ok () := by
          rw [checkParams, ← @checkParam_eq_ok syscall]
          cases checkParam syscall start d r w <;> simp
        rw [hhead, ih, forall_getElem?_cons]
        simp only [Nat.add_zero, Nat.add_right_comm, Nat.add_assoc]

theorem checkSyscall_eq_ok {d : Syscall DecoderType} {r : Syscall RecordType}
    {w : Syscall WireType} : checkSyscall d r w = .ok () ↔ Syscall.Aligned d r w := by
  unfold checkSyscall
  constructor
  · intro h
    split at h
    · cases h
    rename_i hname
    split at h
    · cases h
    rename_i hlength
    obtain ⟨hnr, hnw⟩ := not_or.mp hname
    obtain ⟨hr, hw⟩ := not_not.mp hlength
    refine ⟨not_not.mp hnr, not_not.mp hnw, hr, hw, fun i p q m hp hq hm => ?_⟩
    have := checkParams_eq_ok.mp h i p q m hp hq hm
    rwa [Nat.zero_add] at this
  · rintro ⟨hnr, hnw, hr, hw, hparams⟩
    rw [if_neg (not_or.mpr ⟨not_not.mpr hnr, not_not.mpr hnw⟩), if_neg (not_not.mpr ⟨hr, hw⟩),
      checkParams_eq_ok]
    simpa only [Nat.zero_add] using hparams

theorem checkSyscalls_eq_ok {ds : List (Syscall DecoderType)} {rs : List (Syscall RecordType)}
    {ws : List (Syscall WireType)} :
    checkSyscalls ds rs ws = .ok () ↔
      ∀ (i : Nat) (d : Syscall DecoderType) (r : Syscall RecordType) (w : Syscall WireType),
        ds[i]? = some d → rs[i]? = some r → ws[i]? = some w → Syscall.Aligned d r w := by
  induction ds generalizing rs ws with
  | nil => simp [checkSyscalls]
  | cons d ds ih =>
    cases rs with
    | nil => simp [checkSyscalls]
    | cons r rs =>
      cases ws with
      | nil => simp [checkSyscalls]
      | cons w ws =>
        have hhead : checkSyscalls (d :: ds) (r :: rs) (w :: ws) = .ok () ↔
            Syscall.Aligned d r w ∧ checkSyscalls ds rs ws = .ok () := by
          rw [checkSyscalls, ← checkSyscall_eq_ok]
          cases checkSyscall d r w <;> simp
        rw [hhead, ih, forall_getElem?_cons]

/-- **The check passes exactly on aligned schemas.** -/
theorem checkAligned_eq_ok {schemas : Schemas} :
    schemas.checkAligned = .ok () ↔ schemas.Aligned := by
  unfold checkAligned
  constructor
  · intro h
    split at h
    · cases h
    rename_i hempty
    split at h
    · cases h
    rename_i hlength
    obtain ⟨hr, hw⟩ := not_not.mp hlength
    exact ⟨fun hnil => hempty (by rw [isEmpty, hnil]; rfl), hr, hw, checkSyscalls_eq_ok.mp h⟩
  · rintro ⟨hne, hr, hw, hsyscalls⟩
    have hempty : ¬ schemas.isEmpty = true := fun h => hne (List.isEmpty_iff.mp h)
    rw [if_neg hempty, if_neg (not_not.mpr ⟨hr, hw⟩), checkSyscalls_eq_ok]
    exact hsyscalls

end Schemas

/-! ## Compiled formats are aligned -/

namespace DecoderType

theorem recordMatches_recorded (ty : DecoderType) :
    Schemas.recordMatches ty ty.recorded = true := by
  cases ty <;> rfl

theorem wireHolds_carried (ty : DecoderType) : Schemas.wireHolds ty ty.carried = true := by
  cases ty <;> rfl

end DecoderType

/-- The parameters made of one field fit together. -/
theorem Field.Mapped.aligned {field : Field} (h : field.Mapped) (i : Nat) :
    Param.Aligned i (field.param i field.decoder) (field.param i field.record)
      (field.param i field.wire) where
  decoder_position := rfl
  record_position := rfl
  wire_position := rfl
  record_name := rfl
  wire_name := rfl
  record_type := by
    rw [Field.param, Field.param, h.record]
    exact field.decoder.recordMatches_recorded
  wire_type := by
    rw [Field.param, Field.param, h.wire]
    exact field.decoder.wireHolds_carried

namespace Compiled

/-- The three descriptions of a syscall fit together. -/
def Aligned (c : Compiled) : Prop :=
  Syscall.Aligned c.decoder c.record c.wire

/-- **Whatever text a syscall is compiled from, its descriptions are aligned.** -/
theorem aligned {name format : String} {c : Compiled} (h : ofFormat name format = .ok c) :
    c.Aligned := by
  obtain ⟨fields, rfl, hmapped⟩ := ofFormat_ok h
  refine ⟨rfl, rfl, ?_, ?_, ?_⟩
  · simp only [ofFields, Field.params, List.length_map]
  · simp only [ofFields, Field.params, List.length_map]
  · intro i p q m hp hq hm
    simp only [ofFields, Field.getElem?_params, Option.map_eq_some_iff] at hp hq hm
    obtain ⟨field, hfield, rfl⟩ := hp
    obtain ⟨_, hfield', rfl⟩ := hq
    obtain ⟨_, hfield'', rfl⟩ := hm
    obtain rfl := Option.some.inj (hfield.symm.trans hfield')
    obtain rfl := Option.some.inj (hfield.symm.trans hfield'')
    exact (hmapped field (List.mem_of_getElem? hfield)).aligned i

end Compiled

namespace Schemas

variable {cs : List Compiled}

theorem aligned_ofCompiled (hne : cs ≠ []) (h : ∀ c ∈ cs, c.Aligned) : (ofCompiled cs).Aligned where
  nonempty := by simpa [ofCompiled] using hne
  record_length := by simp only [ofCompiled, List.length_map]
  wire_length := by simp only [ofCompiled, List.length_map]
  syscalls := by
    intro i d r w hd hr hw
    simp only [ofCompiled, List.getElem?_map, Option.map_eq_some_iff] at hd hr hw
    obtain ⟨c, hc, rfl⟩ := hd
    obtain ⟨_, hc', rfl⟩ := hr
    obtain ⟨_, hc'', rfl⟩ := hw
    obtain rfl := Option.some.inj (hc.symm.trans hc')
    obtain rfl := Option.some.inj (hc.symm.trans hc'')
    exact h c (List.mem_of_getElem? hc)

/-- Ordering the descriptions by name leaves them aligned. -/
theorem aligned_sorted (hne : cs ≠ []) (h : ∀ c ∈ cs, c.Aligned) :
    (ofCompiled cs).sorted.Aligned := by
  have hperm := Compiled.sorted_perm cs
  rw [sorted_ofCompiled fun c hc => ⟨(h c hc).record_name, (h c hc).wire_name⟩]
  refine aligned_ofCompiled ?_ fun c hc => h c (hperm.mem_iff.mp hc)
  intro hnil
  rw [hnil] at hperm
  exact hne hperm.nil_eq.symm

end Schemas

/-! ## What is generated -/

/-- A result that depends on a check alone: there is one exactly if the check passes, and its error
is the one that the check finds. -/
structure GuardedBy {α : Type} (check : Except AlignmentError Unit)
    (result : Except AlignmentError α) : Prop where
  succeeds_iff : (∃ text, result = .ok text) ↔ check = .ok ()
  fails_iff : ∀ e, result = .error e ↔ check = .error e

/-- The texts of schemas, whether they are aligned or not. -/
def Artifacts.printed (schemas : Schemas) : Artifacts :=
  { decoder := Artifact.unlines (Artifact.decoderLines schemas)
    records := Artifact.unlines (Artifact.recordLines schemas.record)
    wire := Artifact.unlines (Artifact.wireLines schemas.wire)
    proto := Artifact.unlines (Artifact.protoLines schemas.wire) }

/-- What is generated from schemas. -/
structure Schemas.Generation (schemas : Schemas) : Prop where
  decoder : GuardedBy schemas.checkAligned (Artifact.decoderSource schemas)
  records : GuardedBy schemas.checkAligned (Artifact.recordSource schemas)
  wire : GuardedBy schemas.checkAligned (Artifact.wireSource schemas)
  proto : GuardedBy schemas.checkAligned (Artifact.protoSource schemas)
  all : GuardedBy schemas.checkAligned (Artifacts.ofSchemas schemas)
  /-- All texts are the four texts. -/
  texts : ∀ artifacts, Artifacts.ofSchemas schemas = .ok artifacts →
    Artifact.decoderSource schemas = .ok artifacts.decoder ∧
    Artifact.recordSource schemas = .ok artifacts.records ∧
    Artifact.wireSource schemas = .ok artifacts.wire ∧
    Artifact.protoSource schemas = .ok artifacts.proto

theorem guardedBy_map {α : Type} (check : Except AlignmentError Unit) (text : α) :
    GuardedBy check (check.map fun _ => text) := by
  cases check with
  | error e => exact ⟨by simp [Except.map], by simp [Except.map]⟩
  | ok u => exact ⟨by simp [Except.map], by simp [Except.map]⟩

namespace Artifacts

theorem decoderSource_eq (schemas : Schemas) :
    Artifact.decoderSource schemas =
      schemas.checkAligned.map fun _ => (printed schemas).decoder := by
  simp only [Artifact.decoderSource, printed]
  cases schemas.checkAligned <;> rfl

theorem recordSource_eq (schemas : Schemas) :
    Artifact.recordSource schemas =
      schemas.checkAligned.map fun _ => (printed schemas).records := by
  simp only [Artifact.recordSource, printed]
  cases schemas.checkAligned <;> rfl

theorem wireSource_eq (schemas : Schemas) :
    Artifact.wireSource schemas = schemas.checkAligned.map fun _ => (printed schemas).wire := by
  simp only [Artifact.wireSource, printed]
  cases schemas.checkAligned <;> rfl

theorem protoSource_eq (schemas : Schemas) :
    Artifact.protoSource schemas = schemas.checkAligned.map fun _ => (printed schemas).proto := by
  simp only [Artifact.protoSource, printed]
  cases schemas.checkAligned <;> rfl

theorem ofSchemas_eq (schemas : Schemas) :
    ofSchemas schemas = schemas.checkAligned.map fun _ => printed schemas := by
  rw [ofSchemas, decoderSource_eq, recordSource_eq, wireSource_eq, protoSource_eq]
  generalize printed schemas = texts
  cases schemas.checkAligned <;> rfl

end Artifacts

theorem Schemas.generation (schemas : Schemas) : schemas.Generation where
  decoder := by
    rw [Artifacts.decoderSource_eq]
    exact guardedBy_map _ _
  records := by
    rw [Artifacts.recordSource_eq]
    exact guardedBy_map _ _
  wire := by
    rw [Artifacts.wireSource_eq]
    exact guardedBy_map _ _
  proto := by
    rw [Artifacts.protoSource_eq]
    exact guardedBy_map _ _
  all := by
    rw [Artifacts.ofSchemas_eq]
    exact guardedBy_map _ _
  texts := by
    intro artifacts h
    rw [Artifacts.ofSchemas_eq] at h
    rw [Artifacts.decoderSource_eq, Artifacts.recordSource_eq, Artifacts.wireSource_eq,
      Artifacts.protoSource_eq]
    cases hcheck : schemas.checkAligned with
    | error e =>
      rw [hcheck] at h
      cases h
    | ok _ =>
      rw [hcheck] at h
      cases h
      exact ⟨rfl, rfl, rfl, rfl⟩

/-- Syscalls compiled one by one from their formats. -/
def Compiled.FromFormats (sources : List (String × String)) (cs : List Compiled) : Prop :=
  List.Forall₂ (fun source c => ofFormat source.1 source.2 = .ok c) sources cs

theorem Compiled.FromFormats.aligned {sources : List (String × String)} {cs : List Compiled}
    (h : FromFormats sources cs) : ∀ c ∈ cs, c.Aligned := by
  induction h with
  | nil => simp
  | cons hsource _ ih => exact List.forall_mem_cons.mpr ⟨Compiled.aligned hsource, ih⟩

/-- Schemas that all four texts are generated from. -/
structure Schemas.Accepted (schemas : Schemas) : Prop where
  aligned : schemas.Aligned
  check : schemas.checkAligned = .ok ()
  generated : Artifacts.ofSchemas schemas = .ok (Artifacts.printed schemas)

theorem Schemas.Aligned.accepted {schemas : Schemas} (h : schemas.Aligned) : schemas.Accepted := by
  have hcheck := checkAligned_eq_ok.mpr h
  refine ⟨h, hcheck, ?_⟩
  rw [Artifacts.ofSchemas_eq, hcheck]
  rfl

/-- **Whatever is compiled is generated.**  Formats that are compiled, in any order and any number
of times, give schemas that are accepted, also once these are ordered by name.  And of any schemas
at all, each text is refused exactly if they are not aligned, with the error that the check
finds. -/
theorem generator_contract :
    (∀ sources cs, sources ≠ [] → Compiled.FromFormats sources cs →
      (Schemas.ofCompiled cs).Accepted ∧ (Schemas.ofCompiled cs).sorted.Accepted) ∧
    ∀ schemas : Schemas, schemas.Generation := by
  refine ⟨?_, Schemas.generation⟩
  intro sources cs hne hcs
  have hnil : cs ≠ [] := by
    rintro rfl
    cases hcs
    exact hne rfl
  exact ⟨(Schemas.aligned_ofCompiled hnil hcs.aligned).accepted,
    (Schemas.aligned_sorted hnil hcs.aligned).accepted⟩

/-- A format of which the first field is the number of the syscall, no parameter. -/
def numberedFormat : String :=
  "\n\tfield:int __syscall_nr;\n\tfield:char * buf;\n"

/-- Two syscalls, one of them twice. -/
theorem generator_readTwice :
    let sources := [("read", numberedFormat), ("mkdir", "\n\tfield:umode_t mode;\n"),
      ("read", numberedFormat)]
    let read := Compiled.ofFields "read" [⟨"buf", "char *", .buffer, .char, .bytes⟩]
    let mkdir := Compiled.ofFields "mkdir" [⟨"mode", "umode_t", .u64, .u64, .uint64⟩]
    sources ≠ [] ∧ Compiled.FromFormats sources [read, mkdir, read] ∧
      (Schemas.ofCompiled [read, mkdir, read]).Accepted ∧
      (Schemas.ofCompiled [read, mkdir, read]).sorted.Accepted := by
  intro sources read mkdir
  have hread : Compiled.ofFormat "read" numberedFormat = .ok read := by
    decide +kernel
  have hmkdir : Compiled.ofFormat "mkdir" "\n\tfield:umode_t mode;\n" = .ok mkdir := by
    decide +kernel
  have hcompiled : Compiled.FromFormats sources [read, mkdir, read] :=
    .cons hread (.cons hmkdir (.cons hread .nil))
  have hsources : sources ≠ [] := List.cons_ne_nil _ _
  exact ⟨hsources, hcompiled, generator_contract.1 sources _ hsources hcompiled⟩

end Tracepoint
