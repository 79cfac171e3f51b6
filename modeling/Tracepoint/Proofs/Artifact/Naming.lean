import Mathlib
import Tracepoint.Proofs.Artifact.Emission
import Tracepoint.Proofs.Artifact.FieldNames
import Tracepoint.Proofs.Artifact.Functions

/-!
# Names of generated fields

The fields of whatever is generated for a syscall are named like the fields of its format, with two
additions: a record starts with a field of its own, and a decoder has a path beside each
descriptor.  Nothing checks these names, so they are as good as those of the format.

* `FieldNames.ofLines?` — the names that are read off what is generated for one syscall;
* `FieldNames.Usable` — what is asked of them: no two are equal, and each is one of its language;
* `NamingContract` — which names there are, and when they are usable;
* `naming_contract` — it holds of all formats that are accepted.
-/

set_option autoImplicit false

namespace Tracepoint.Artifact

/-! ## Legal names -/

/-- The words that Rust has a meaning for, or keeps for one, since 2021. -/
def reservedWords : List String := [
  "as", "async", "await", "break", "const", "continue", "crate", "dyn", "else", "enum", "extern",
  "false", "fn", "for", "if", "impl", "in", "let", "loop", "match", "mod", "move", "mut", "pub",
  "ref", "return", "self", "Self", "static", "struct", "super", "trait", "true", "type", "unsafe",
  "use", "where", "while",
  "abstract", "become", "box", "do", "final", "macro", "override", "priv", "try", "typeof",
  "unsized", "virtual", "yield"]

/-- The reserved words that have no escaped form. -/
def unescapable : List String := ["crate", "self", "super", "Self"]

/-- Reserved words of which nothing is said here. -/
def exceptedWords : List String := [
  "abstract", "become", "crate", "do", "final", "macro", "override", "priv", "self", "super",
  "try", "typeof", "unsized", "virtual"]

/-- Whether a name starts with a letter or an underscore. -/
def startsName (name : String) : Bool :=
  name.toList.head?.any fun c => c.isAlpha || c = '_'

def startsWithDigit (name : String) : Bool :=
  name.toList.head?.any Char.isDigit

/-- A name that a field of a Rust struct can have, as it is spelled. -/
structure IsRustName (field : String) : Prop where
  starts : startsName (unescaped field) = true
  notBlank : unescaped field ≠ "_"
  notReserved : field ∉ reservedWords
  escapable : unescaped field = field ∨ unescaped field ∉ unescapable

instance (field : String) : Decidable (IsRustName field) :=
  decidable_of_iff (startsName (unescaped field) = true ∧ unescaped field ≠ "_" ∧
    field ∉ reservedWords ∧ (unescaped field = field ∨ unescaped field ∉ unescapable))
    ⟨fun ⟨hstarts, hblank, hreserved, hescapable⟩ => ⟨hstarts, hblank, hreserved, hescapable⟩,
      fun h => ⟨h.starts, h.notBlank, h.notReserved, h.escapable⟩⟩

section Legal

variable {name : String}

theorem isDigit_eq_false {c : Char} (h : c.isAlpha = true ∨ c = '_') : c.isDigit = false := by
  rcases h with h | rfl
  · rw [Bool.eq_false_iff]
    intro hdigit
    rw [Text.CamelCase.isAlpha_of_isDigit hdigit] at h
    cases h
  · rfl

/-- A raw name starts with a letter or an underscore, or with a digit. -/
theorem startsName_iff (h : FieldLine.IsName name.toList) :
    startsName name = true ↔ startsWithDigit name = false := by
  unfold startsName startsWithDigit
  cases hcs : name.toList with
  | nil => exact absurd hcs h.nonempty
  | cons c cs =>
    have hchar := h.spelled c (hcs ▸ List.mem_cons_self)
    simp only [List.head?_cons, Option.any_some, Bool.or_eq_true, decide_eq_true_eq]
    constructor
    · exact isDigit_eq_false
    · intro hdigit
      rcases FieldLine.cases_of_isNameChar hchar with rfl | hlower | hdigit'
      · exact .inr rfl
      · exact .inl (by simp [Char.isAlpha, hlower])
      · rw [hdigit'] at hdigit
        cases hdigit

theorem isRustName_keyword : ∀ keyword ∈ rustKeywords, keyword ∉ exceptedWords →
    IsRustName (rustField keyword) ∧ keyword ≠ "_" ∧ startsWithDigit keyword = false := by
  decide +kernel

theorem reserved_cases : ∀ word ∈ reservedWords,
    word ∈ rustKeywords ∨ word ∈ exceptedWords ∨ word.toList.all FieldLine.isNameChar = false := by
  decide +kernel

/-- **When the spelling of a raw name is legal.** -/
theorem isRustName_rustField (h : FieldLine.IsName name.toList) (hexcepted : name ∉ exceptedWords) :
    IsRustName (rustField name) ↔ name ≠ "_" ∧ startsWithDigit name = false := by
  by_cases hkeyword : name ∈ rustKeywords
  · obtain ⟨hlegal, hblank⟩ := isRustName_keyword name hkeyword hexcepted
    exact iff_of_true hlegal hblank
  · have hfield : rustField name = name := if_neg hkeyword
    have hunescaped := unescaped_rustField h
    rw [hfield] at hunescaped ⊢
    constructor
    · intro hlegal
      have hstarts := hlegal.starts
      have hblank := hlegal.notBlank
      rw [hunescaped] at hstarts hblank
      exact ⟨hblank, (startsName_iff h).mp hstarts⟩
    · rintro ⟨hblank, hdigit⟩
      refine ⟨?_, ?_, ?_, .inl hunescaped⟩
      · rw [hunescaped]
        exact (startsName_iff h).mpr hdigit
      · rwa [hunescaped]
      · intro hmem
        rcases reserved_cases name hmem with hcase | hcase | hcase
        · exact hkeyword hcase
        · exact hexcepted hcase
        · rw [List.all_eq_true.mpr h.spelled] at hcase
          cases hcase

/-- **When the name of a path is legal.** -/
theorem isRustName_pathField (h : FieldLine.IsName name.toList) :
    IsRustName (pathField name) ↔ startsWithDigit name = false := by
  have hreserved : ∀ word ∈ reservedWords ++ ["_"], ¬ "_path".toList <:+ word.toList := by decide
  have hsuffix : "_path".toList <:+ (pathField name).toList := by
    rw [pathField, String.toList_append]
    exact List.suffix_append _ _
  have hhead : startsName (pathField name) = startsName name := by
    unfold startsName
    rw [pathField, String.toList_append, List.head?_append_of_ne_nil _ h.nonempty]
  have hunescaped := unescaped_rustField (isName_pathField h)
  rw [rustField_pathField] at hunescaped
  rw [← startsName_iff h, ← hhead]
  constructor
  · intro hlegal
    rw [← hunescaped]
    exact hlegal.starts
  · intro hstarts
    refine ⟨by rwa [hunescaped], ?_, ?_, .inl hunescaped⟩
    · rw [hunescaped]
      rintro heq
      exact hreserved "_" (by decide) (heq ▸ hsuffix)
    · exact fun hmem => hreserved _ (List.mem_append_left _ hmem) hsuffix

end Legal

/-! ## Distinct names -/

section Distinct

variable {names : List String}

/-- **Spelling keeps names apart.** -/
theorem nodup_rustField (h : ∀ name ∈ names, FieldLine.IsName name.toList) :
    (names.map rustField).Nodup ↔ names.Nodup := by
  constructor
  · exact List.Nodup.of_map _
  · refine List.Nodup.map_on fun name hname other hother heq => ?_
    exact (rustField_inj (h name hname) (h other hother)).mp heq

/-- The names of the fields of a decoder: each parameter's, and that of its path. -/
def decoderNames (params : List (Param DecoderType)) : List String :=
  params.flatMap fun p =>
    rustField p.name :: if p.needsPath then [pathField p.name] else []

theorem decoderNames_perm (params : List (Param DecoderType)) :
    ((params.map Param.name).map rustField ++
      ((params.filter Param.needsPath).map Param.name).map pathField).Perm
        (decoderNames params) := by
  have hpaths : (params.flatMap fun p => if p.needsPath then [pathField p.name] else []) =
      ((params.filter Param.needsPath).map Param.name).map pathField := by
    induction params with
    | nil => rfl
    | cons p params ih =>
      rw [List.flatMap_cons, ih]
      cases hpath : p.needsPath <;> simp [hpath]
  rw [← hpaths, List.map_map]
  exact List.map_append_flatMap_perm ..

/-- **The names of a decoder are distinct** if those of its parameters are, and none of them is
taken for a path. -/
theorem nodup_decoderNames {params : List (Param DecoderType)}
    (h : ∀ p ∈ params, FieldLine.IsName p.name.toList) :
    (decoderNames params).Nodup ↔ (params.map Param.name).Nodup ∧
      ∀ p ∈ params, p.needsPath = true → pathField p.name ∉ params.map Param.name := by
  have hnames : ∀ name ∈ params.map Param.name, FieldLine.IsName name.toList :=
    List.forall_mem_map.mpr h
  have hpaths (name : String) (hname : name ∈ (params.filter Param.needsPath).map Param.name) :
      ∃ p ∈ params, p.needsPath = true ∧ p.name = name := by
    obtain ⟨p, hp, rfl⟩ := List.mem_map.mp hname
    obtain ⟨hp, hpath⟩ := List.mem_filter.mp hp
    exact ⟨p, hp, hpath, rfl⟩
  rw [← (decoderNames_perm params).nodup_iff, List.nodup_append', nodup_rustField hnames]
  constructor
  · rintro ⟨hnodup, -, hdisjoint⟩
    refine ⟨hnodup, fun p hp hpath hmem => ?_⟩
    refine hdisjoint (a := pathField p.name) ?_ ?_
    · exact List.mem_map.mpr ⟨_, hmem, rustField_pathField p.name⟩
    · exact List.mem_map_of_mem (List.mem_map_of_mem (List.mem_filter.mpr ⟨hp, hpath⟩))
  · rintro ⟨hnodup, hapart⟩
    have hfiltered : ((params.filter Param.needsPath).map Param.name).Nodup :=
      hnodup.sublist ((List.filter_sublist).map _)
    refine ⟨hnodup, hfiltered.map fun _ _ heq => String.append_left_inj _ |>.mp heq, ?_⟩
    intro field hfield hpath
    obtain ⟨name, hname, rfl⟩ := List.mem_map.mp hfield
    obtain ⟨other, hother, heq⟩ := List.mem_map.mp hpath
    obtain ⟨p, hp, hneeds, rfl⟩ := hpaths other hother
    rw [← rustField_pathField, eq_comm] at heq
    rw [(rustField_inj (hnames name hname) (isName_pathField (h p hp))).mp heq] at hname
    exact hapart p hp hneeds hname

end Distinct

/-! ## Reading names -/

theorem ends_rustRecordType (ty : RecordType) : Template.Ends (rustRecordType ty) "," :=
  ⟨',', [], rfl, by cases ty <;> decide⟩

namespace RecordStruct

/-- The lines of a record before its struct. -/
def frontLines (r : RecordStruct) : List String := [
  "",
  "/// Record written for `" ++ r.event ++ "`.",
  "#[repr(C, packed)]",
  "#[derive(Clone, Copy)]"]

/-- The fields of a record as they are written. -/
def fieldLines (r : RecordStruct) : List String :=
  "    pub common: CommonEvent," ::
    r.fields.map fun (name, ty) => "    pub " ++ name ++ ": " ++ rustRecordType ty ++ ","

/-- The lines of a record after its struct. -/
def rearLines (r : RecordStruct) : List String := [
  "",
  "impl " ++ r.typeName ++ " \x7b",
  "    pub const NAME: &'static str = " ++ Text.Quoted.quote r.event ++ ";",
  "    pub const PAYLOAD_SIZE: usize = " ++ toString r.payloadSize ++ ";",
  "\x7d",
  "",
  "const _: () = assert!(",
  "    core::mem::size_of::<" ++ r.typeName ++ ">() == COMMON_EVENT_SIZE + " ++ r.typeName ++
    "::PAYLOAD_SIZE",
  ");"]

theorem lines_eq (r : RecordStruct) :
    r.lines = r.frontLines ++ ((("pub struct " ++ r.typeName ++ " \x7b") :: r.fieldLines ++
      ["\x7d"]) ++ r.rearLines) := by
  unfold lines frontLines fieldLines rearLines
  simp only [List.append_assoc, List.cons_append, List.nil_append]

/-- The fields of a record, with the header that it starts with. -/
def structFields (r : RecordStruct) : List RustField :=
  ⟨"common", "CommonEvent"⟩ :: r.fields.map fun (name, ty) => ⟨name, rustRecordType ty⟩

variable {r : RecordStruct}

theorem isEntry_fieldLines (h : ∀ field ∈ r.fields, IsWord field.1) :
    List.Forall₂ rustStructs.IsEntry r.fieldLines r.structFields := by
  have hcommon : rustStructs.IsEntry "    pub common: CommonEvent," ⟨"common", "CommonEvent"⟩ :=
    ⟨by decide, by decide, by decide⟩
  refine .cons hcommon (forall₂_map ?_)
  rintro ⟨name, ty⟩ hfield
  have hread := RustField.read?_eq (h _ hfield) (ends_rustRecordType ty)
  simp only [String.append_assoc] at hread ⊢
  exact isEntry_keyed (by decide) (by decide) hread

/-- **The struct of a record** is the only one in its lines. -/
theorem structs_lines (htype : IsWord r.typeName) (hnames : ∀ field ∈ r.fields, IsWord field.1) :
    rustStructs.blocks? r.lines = some [⟨r.typeName, r.structFields⟩] := by
  have hfront : rustStructs.Reads r.frontLines [] := by
    refine Grammar.reads_nil ?_
    simp only [frontLines, List.forall_mem_cons, String.append_assoc]
    exact ⟨by decide, header?_of_clash (by decide) _, by decide, by decide, by simp⟩
  have hrear : rustStructs.Reads r.rearLines [] := by
    refine Grammar.reads_nil ?_
    simp only [rearLines, List.forall_mem_cons, String.append_assoc]
    exact ⟨by decide, header?_of_clash (by decide) _, header?_of_clash (by decide) _,
      header?_of_clash (by decide) _, by decide, by decide, by decide,
      header?_of_clash (by decide) _, by decide, by simp⟩
  have hblock : rustStructs.Reads
      (("pub struct " ++ r.typeName ++ " \x7b") :: r.fieldLines ++ ["\x7d"])
      [⟨r.typeName, r.structFields⟩] :=
    Grammar.reads_block (opened?_eq htype _) (isEntry_fieldLines hnames) (by decide) (by decide)
  have hreads := hfront.append (hblock.append hrear) []
  rw [← lines_eq] at hreads
  simpa [Grammar.blocks?] using hreads

end RecordStruct

/-- The names of the fields of what is generated for one syscall, in order. -/
structure FieldNames where
  decoder : List String
  record : List String
  /-- Those of the message in Rust. -/
  wire : List String
  /-- Those of the message in its definition. -/
  proto : List String
  deriving DecidableEq, Repr

namespace FieldNames

/-- Reads the names off lines with one struct or message each. -/
def ofLines? (decoder record wire proto : List String) : Option FieldNames :=
  match rustStructs.blocks? decoder, rustStructs.blocks? record, rustStructs.blocks? wire,
    protoMessages.blocks? proto with
  | some [d], some [r], some [w], some [m] =>
    some ⟨d.entries.map RustField.name, r.entries.map RustField.name,
      w.entries.map RustField.name, m.entries.map ProtoEntry.name⟩
  | _, _, _, _ => none

/-- The names that are read off what is generated for a compiled syscall. -/
def ofCompiled? (c : Compiled) : Option FieldNames :=
  ofLines? (treeOf c).lines (RecordStruct.ofSyscall c.record).lines
    (Message.ofSyscall c.wire).rustLines (Message.ofSyscall c.wire).protoLines

/-- What is asked of the names: those of one struct or message are distinct, and all of them are
legal in their language. -/
structure Usable (names : FieldNames) : Prop where
  decoder : names.decoder.Nodup
  record : names.record.Nodup
  wire : names.wire.Nodup
  proto : names.proto.Nodup
  rust : ∀ field ∈ names.decoder ++ names.record ++ names.wire, IsRustName field
  starts : ∀ field ∈ names.proto, startsName field = true

end FieldNames

/-! ## Names of what is made of a syscall -/

theorem DecoderTree.names_structFields (d : Syscall DecoderType) (r : Syscall RecordType)
    (message : String) :
    (ofSyscall d r message).structFields.map RustField.name = decoderNames d.params := by
  show ((d.params.flatMap paramFields).map _).map RustField.name = _
  rw [List.map_map, List.map_flatMap, decoderNames]
  refine List.flatMap_congr fun p _ => ?_
  unfold paramFields
  cases p.needsPath <;> rfl

theorem RecordStruct.names_structFields (s : Syscall RecordType) :
    (ofSyscall s).structFields.map RustField.name =
      "common" :: (s.params.map Param.name).map rustField := by
  simp [structFields, ofSyscall]

namespace Message

variable (s : Syscall WireType)

theorem names_fields : (ofSyscall s).fields.map Prod.fst = s.params.map Param.name := by
  simp [ofSyscall]

theorem names_rustEntries :
    (ofSyscall s).rustEntries.map RustField.name = (s.params.map Param.name).map rustField := by
  simp [rustEntries, ofSyscall]

/-- Numbering the fields of a message keeps their names. -/
theorem names_protoEntries :
    (ofSyscall s).protoEntries.map ProtoEntry.name = s.params.map Param.name := by
  have hfst : ((ofSyscall s).fields.zipIdx 1).map Prod.fst = (ofSyscall s).fields :=
    List.zipIdx_map_fst ..
  rw [← names_fields, ← hfst, protoEntries, List.map_map, List.map_map]
  rfl

end Message

end Tracepoint.Artifact

namespace Tracepoint

open Artifact

namespace Compiled

/-- The names of the fields that a syscall is compiled from. -/
def rawNames (c : Compiled) : List String :=
  c.decoder.params.map Param.name

variable {name format : String} {c : Compiled}

/-- The three descriptions of a compiled syscall have the same words for names. -/
structure SharesNames (c : Compiled) : Prop where
  spelled : ∀ name ∈ c.rawNames, FieldLine.IsName name.toList
  record : c.record.params.map Param.name = c.rawNames
  wire : c.wire.params.map Param.name = c.rawNames
  typeNames : IsWord c.decoder.typeName ∧ IsWord c.record.typeName ∧ IsWord c.wire.typeName

theorem sharesNames (h : ofFormat name format = .ok c) : c.SharesNames := by
  obtain ⟨fields, hfields, rfl⟩ := ofFormat_eq_ok.mp h
  have hnames {τ : Type} (ty : Field → τ) :
      (Field.params ty fields).map Param.name = fields.map Field.name := by
    have hfst : fields.zipIdx.map Prod.fst = fields := List.zipIdx_map_fst ..
    conv => rhs; rw [← hfst]
    rw [Field.params, List.map_map, List.map_map]
    rfl
  refine ⟨?_, (hnames _).trans (hnames _).symm, (hnames _).trans (hnames _).symm,
    isWord_event name, ?_, isWord_protobuf name⟩
  · show ∀ name ∈ (Field.params Field.decoder fields).map Param.name, _
    rw [hnames, List.forall_mem_map]
    exact Field.forall_ofLines (fun _ _ => Field.ofLine_isName) hfields
  · exact (isWord_camelCase name).append (by decide)

end Compiled

/-- The names that are generated for a compiled syscall. -/
def Artifact.FieldNames.ofCompiled (c : Compiled) : FieldNames where
  decoder := decoderNames c.decoder.params
  record := "common" :: c.rawNames.map rustField
  wire := c.rawNames.map rustField
  proto := c.rawNames

/-- No name of a path that a descriptor of the syscall has is taken. -/
def Compiled.PathsApart (c : Compiled) : Prop :=
  ∀ p ∈ c.decoder.params, p.needsPath = true → pathField p.name ∉ c.rawNames

namespace Compiled.SharesNames

variable {c : Compiled}

/-- **The names are read off what is generated.** -/
theorem ofCompiled? (h : c.SharesNames) :
    FieldNames.ofCompiled? c = some (FieldNames.ofCompiled c) := by
  have hword : ∀ name ∈ c.rawNames, IsWord name := fun name hname =>
    isWord_of_isName (h.spelled name hname)
  have hdecoder : ∀ field ∈ (treeOf c).fields, IsWord field.1 := by
    intro field hfield
    obtain ⟨p, hp, hfield⟩ := List.mem_flatMap.mp hfield
    have hname := hword _ (List.mem_map_of_mem hp)
    refine DecoderTree.forall_mem_withPath (P := fun field : String × FieldType => IsWord field.1)
      ?_ ?_ field hfield
    · exact isWord_rustField hname
    · exact isWord_pathField hname
  have hrecord : ∀ field ∈ (RecordStruct.ofSyscall c.record).fields, IsWord field.1 := by
    refine List.forall_mem_map.mpr fun p hp => ?_
    exact isWord_rustField (hword _ (h.record ▸ List.mem_map_of_mem hp))
  have hmessage : (Message.ofSyscall c.wire).WellNamed := by
    refine ⟨h.typeNames.2.2, List.forall_mem_map.mpr fun p hp => ?_⟩
    exact hword _ (h.wire ▸ List.mem_map_of_mem hp)
  have hwire : rustStructs.blocks? (Message.ofSyscall c.wire).rustLines =
      some [⟨(Message.ofSyscall c.wire).name, (Message.ofSyscall c.wire).rustEntries⟩] := by
    simpa [Grammar.blocks?] using Message.reads_rustLines hmessage []
  have hproto : protoMessages.blocks? (Message.ofSyscall c.wire).protoLines =
      some [⟨(Message.ofSyscall c.wire).name, (Message.ofSyscall c.wire).protoEntries⟩] := by
    simpa [Grammar.blocks?] using Message.reads_protoLines hmessage []
  rw [FieldNames.ofCompiled?, FieldNames.ofLines?, DecoderTree.structs_lines h.typeNames.1 hdecoder,
    RecordStruct.structs_lines h.typeNames.2.1 hrecord, hwire, hproto]
  simp only [treeOf, DecoderTree.names_structFields, RecordStruct.names_structFields,
    Message.names_rustEntries, Message.names_protoEntries, h.record, h.wire]
  rfl

theorem decoder_nodup (h : c.SharesNames) :
    (FieldNames.ofCompiled c).decoder.Nodup ↔ c.rawNames.Nodup ∧ c.PathsApart :=
  nodup_decoderNames fun _ hp => h.spelled _ (List.mem_map_of_mem hp)

theorem record_nodup (h : c.SharesNames) :
    (FieldNames.ofCompiled c).record.Nodup ↔ c.rawNames.Nodup ∧ "common" ∉ c.rawNames := by
  have hkeyword : rustField "common" = "common" := by decide
  have hcommon : FieldLine.IsName "common".toList :=
    ⟨by decide, List.all_eq_true.mp (by decide)⟩
  have hmem : "common" ∈ c.rawNames.map rustField ↔ "common" ∈ c.rawNames := by
    constructor
    · intro hfield
      obtain ⟨name, hname, heq⟩ := List.mem_map.mp hfield
      rw [← hkeyword, rustField_inj (h.spelled name hname) hcommon] at heq
      exact heq ▸ hname
    · exact fun hname => List.mem_map.mpr ⟨_, hname, hkeyword⟩
  show ("common" :: c.rawNames.map rustField).Nodup ↔ _
  rw [List.nodup_cons, hmem, nodup_rustField h.spelled, and_comm]

/-- **When all names are usable**, unless one of the excepted words is among them. -/
theorem usable_iff (h : c.SharesNames) (hexcepted : ∀ name ∈ c.rawNames, name ∉ exceptedWords) :
    (FieldNames.ofCompiled c).Usable ↔ c.rawNames.Nodup ∧ c.PathsApart ∧ "common" ∉ c.rawNames ∧
      ∀ name ∈ c.rawNames, name ≠ "_" ∧ startsWithDigit name = false := by
  have hrust (name : String) (hname : name ∈ c.rawNames) :=
    isRustName_rustField (h.spelled name hname) (hexcepted name hname)
  constructor
  · intro husable
    obtain ⟨hnodup, hpaths⟩ := h.decoder_nodup.mp husable.decoder
    refine ⟨hnodup, hpaths, (h.record_nodup.mp husable.record).2, fun name hname => ?_⟩
    exact (hrust name hname).mp
      (husable.rust _ (List.mem_append_right _ (List.mem_map_of_mem hname)))
  · rintro ⟨hnodup, hpaths, hheader, hnames⟩
    have hfields : ∀ field ∈ c.rawNames.map rustField, IsRustName field :=
      List.forall_mem_map.mpr fun name hname => (hrust name hname).mpr (hnames name hname)
    have hdecoder : ∀ field ∈ decoderNames c.decoder.params, IsRustName field := by
      intro field hfield
      obtain ⟨p, hp, hfield⟩ := List.mem_flatMap.mp hfield
      have hname : p.name ∈ c.rawNames := List.mem_map_of_mem hp
      refine DecoderTree.forall_mem_withPath ?_ ?_ field hfield
      · exact hfields _ (List.mem_map_of_mem hname)
      · exact (isRustName_pathField (h.spelled _ hname)).mpr (hnames _ hname).2
    have hrecord : ∀ field ∈ "common" :: c.rawNames.map rustField, IsRustName field :=
      List.forall_mem_cons.mpr ⟨by decide, hfields⟩
    refine ⟨h.decoder_nodup.mpr ⟨hnodup, hpaths⟩, h.record_nodup.mpr ⟨hnodup, hheader⟩,
      (nodup_rustField h.spelled).mpr hnodup, hnodup, ?_, ?_⟩
    · exact List.forall_mem_append.mpr ⟨List.forall_mem_append.mpr ⟨hdecoder, hrecord⟩, hfields⟩
    · exact fun name hname => (startsName_iff (h.spelled name hname)).mpr (hnames name hname).2

end Compiled.SharesNames

/-- What is generated for a compiled syscall, by the names of the fields that it is compiled
from. -/
structure NamingContract (c : Compiled) (names : FieldNames) : Prop where
  /-- The names are those of the sources, whatever the syscall is compiled along with. -/
  emitted : ∀ cs : List Compiled, c ∈ cs → (∀ other ∈ cs, other.Aligned) → c.Emitted cs
  decoder : names.decoder = decoderNames c.decoder.params
  record : names.record = "common" :: c.rawNames.map rustField
  wire : names.wire = c.rawNames.map rustField
  proto : names.proto = c.rawNames
  /-- A decoder has no two fields of one name if the format has none, and none that is named like
  the path of a descriptor. -/
  decoder_nodup : names.decoder.Nodup ↔ c.rawNames.Nodup ∧ c.PathsApart
  /-- Nor has a record, if no field of the format is named like its header. -/
  record_nodup : names.record.Nodup ↔ c.rawNames.Nodup ∧ "common" ∉ c.rawNames
  wire_nodup : names.wire.Nodup ↔ c.rawNames.Nodup
  proto_nodup : names.proto.Nodup ↔ c.rawNames.Nodup
  /-- A name is legal in Rust unless it is blank or starts with a digit. -/
  rust : ∀ name ∈ c.rawNames, name ∉ exceptedWords →
    (IsRustName (rustField name) ↔ name ≠ "_" ∧ startsWithDigit name = false)
  path : ∀ name ∈ c.rawNames, (IsRustName (pathField name) ↔ startsWithDigit name = false)
  starts : ∀ name ∈ c.rawNames, (startsName name = true ↔ startsWithDigit name = false)
  usable : (∀ name ∈ c.rawNames, name ∉ exceptedWords) →
    (names.Usable ↔ c.rawNames.Nodup ∧ c.PathsApart ∧ "common" ∉ c.rawNames ∧
      ∀ name ∈ c.rawNames, name ≠ "_" ∧ startsWithDigit name = false)

/-- **Field names are as good as those of the format**, for any name and any format that is
accepted. -/
theorem naming_contract {name format : String} {c : Compiled}
    (h : Compiled.ofFormat name format = .ok c) :
    ∃ names, FieldNames.ofCompiled? c = some names ∧ NamingContract c names := by
  have hshares := Compiled.sharesNames h
  refine ⟨_, hshares.ofCompiled?, ?_⟩
  exact {
    emitted := fun cs hc haligned => Compiled.emitted hc haligned
    decoder := rfl
    record := rfl
    wire := rfl
    proto := rfl
    decoder_nodup := hshares.decoder_nodup
    record_nodup := hshares.record_nodup
    wire_nodup := nodup_rustField hshares.spelled
    proto_nodup := Iff.rfl
    rust := fun name hname => isRustName_rustField (hshares.spelled name hname)
    path := fun name hname => isRustName_pathField (hshares.spelled name hname)
    starts := fun name hname => startsName_iff (hshares.spelled name hname)
    usable := hshares.usable_iff }

/-- A descriptor, and a buffer that is named by a keyword. -/
def keywordRead : Compiled :=
  Compiled.ofFields "read" [⟨"fd", "unsigned int", .u64, .u64, .uint64⟩,
    ⟨"type", "char *", .buffer, .char, .bytes⟩]

/-- The keyword is escaped, and the path has a name of its own. -/
theorem naming_keywordRead :
    Compiled.ofFormat "read" "\n\tfield:unsigned int fd;\n\tfield:char * type;\n" =
        .ok keywordRead ∧
      ∃ names, FieldNames.ofCompiled? keywordRead = some names ∧
        NamingContract keywordRead names := by
  have hformat : Compiled.ofFormat "read"
      "\n\tfield:unsigned int fd;\n\tfield:char * type;\n" = .ok keywordRead := by
    decide +kernel
  exact ⟨hformat, naming_contract hformat⟩

/-- Two fields of one name, which starts with a digit. -/
def repeatedName : Compiled :=
  Compiled.ofFields "read" [⟨"1a", "int", .i64, .s64, .int64⟩, ⟨"1a", "int", .i64, .s64, .int64⟩]

/-- **Not all names are usable**: nothing keeps a format from naming two fields alike, or from
naming one as neither language can. -/
theorem repeatedName_not_usable :
    Compiled.ofFormat "read" "\n\tfield:int 1a;\n\tfield:int 1a;\n" = .ok repeatedName ∧
      ∃ names, FieldNames.ofCompiled? repeatedName = some names ∧
        ¬ names.decoder.Nodup ∧ ¬ names.record.Nodup ∧ ¬ names.wire.Nodup ∧ ¬ names.proto.Nodup ∧
        (∃ field ∈ names.decoder, ¬ IsRustName field) ∧
        ∃ field ∈ names.proto, startsName field = false := by
  have hformat : Compiled.ofFormat "read" "\n\tfield:int 1a;\n\tfield:int 1a;\n" =
      .ok repeatedName := by
    decide +kernel
  refine ⟨hformat, _, (Compiled.sharesNames hformat).ofCompiled?, ?_⟩
  decide

end Tracepoint
