import Mathlib
import Tracepoint.Proofs.Artifact.Constructions
import Tracepoint.Proofs.Artifact.MessageTexts
import Tracepoint.Proofs.Schema.Alignment

/-!
# Three texts about the same messages

The protocol definition, the wire source and the decoder source of a kernel's syscalls are written
one by one.  Read back, they describe the same messages in the same envelope.

* `Reading.ofTexts?` — what the three texts say;
* `Reading.Agrees` — what it means that they say the same;
* `messages_contract` — they do, whatever directory of tracepoints the syscalls are compiled from.
-/

set_option autoImplicit false

namespace Tracepoint.Artifact

/-! ## What three texts say -/

/-- What is read off the protocol definition, the wire source and the decoder source. -/
structure Reading where
  messages : List (Block String ProtoEntry)
  /-- The alternatives for the event of the envelope. -/
  alternatives : List ProtoEntry
  structs : List (Block String RustField)
  /-- The variants of the type of that event. -/
  variants : List RustVariant
  constructions : List (Block String Assignment)
  deriving DecidableEq, Repr

namespace Reading

/-- Reads three texts.  The definition has to have one set of alternatives, for `event`, and the
wire source one enum, `Event`. -/
def ofTexts? (proto wire decoder : String) : Option Reading :=
  match protoMessages.read? proto, protoOneofs.read? proto, rustStructs.read? wire,
    rustEnums.read? wire, Artifact.constructions.read? decoder with
  | some messages, some [oneof], some structs, some [enum], some constructions =>
    if oneof.header = "event" ∧ enum.header = "Event" then
      some { messages, alternatives := oneof.entries, structs, variants := enum.entries,
             constructions }
    else none
  | _, _, _, _, _ => none

/-- The messages that are not the envelope. -/
def payloads (r : Reading) : List (Block String ProtoEntry) :=
  r.messages.filter fun m => m.header ≠ "Metric"

/-- The structs that are not the envelope. -/
def mirrors (r : Reading) : List (Block String RustField) :=
  r.structs.filter fun s => s.header ≠ "Metric"

end Reading

/-! ## What it means to say the same -/

/-- A message and a struct with one name and corresponding fields in the same order. -/
structure Mirrors (message : Block String ProtoEntry) (struct : Block String RustField) : Prop where
  header : struct.header = message.header
  entries : List.Forall₂ (fun e f => f.name = rustField e.name ∧
      ∃ ty : WireType, e.type = ty.protoName ∧ f.type = rustWireType ty)
    message.entries struct.entries

/-- A message with the parameters of a syscall, in order. -/
structure Carries (message : Block String ProtoEntry) (s : Syscall WireType) : Prop where
  header : message.header = s.typeName
  entries : message.entries.map (fun e => (e.type, e.name)) =
    s.params.map fun p => (p.ty.protoName, p.name)

/-- The construction of a variant with all fields of the struct that it carries, in order. -/
structure Constructs (construction : Block String Assignment) (variant : RustVariant)
    (struct : Block String RustField) : Prop where
  header : construction.header = variant.name ++ "(" ++ variant.message ++ " \x7b"
  message : struct.header = variant.message
  fields : construction.entries.map Assignment.field = struct.entries.map RustField.name
  /-- Each is set from the field of the event with its name. -/
  sources : ∀ e ∈ construction.entries, e.source = e.field

/-- Three texts that say the same of the messages of syscalls. -/
structure Reading.Agrees (r : Reading) (syscalls : List (Syscall WireType)) : Prop where
  ordered : (syscalls.map Syscall.name).Pairwise (· ≤ ·)
  /-- Messages and structs are the same list. -/
  mirrored : List.Forall₂ Mirrors r.payloads r.mirrors
  /-- The fields of every message are numbered from one. -/
  numbered : ∀ m ∈ r.messages, m.entries.map ProtoEntry.tag = List.range' 1 m.entries.length
  /-- After the three that are always there, each syscall has its message. -/
  carried : List.Forall₂ Carries (r.payloads.drop 3) syscalls
  /-- Beside its alternatives, the envelope has two fields, with the numbers one and two. -/
  envelope : ∃ envelope ∈ r.messages, envelope.header = "Metric" ∧ envelope.entries.length = 2
  /-- The alternatives are numbered from three. -/
  tags : r.alternatives.map ProtoEntry.tag = List.range' 3 r.alternatives.length
  /-- After the two that are always there, each syscall has its alternative. -/
  alternatives : r.alternatives.length = 2 + syscalls.length ∧
    ∀ i s, syscalls[i]? = some s → r.alternatives[2 + i]? =
      some ⟨s.typeName, s.name ++ "_event", 5 + i⟩
  /-- Alternatives and variants are the same list. -/
  variants : List.Forall₂ (fun a v => v.message = a.type ∧ v.name = Text.camelCase a.name)
    r.alternatives r.variants
  /-- What is constructed are the variants of the syscalls, each once. -/
  constructed : List.Forall₂ (fun c target => Constructs c target.1 target.2) r.constructions
    ((r.variants.drop 2).zip (r.mirrors.drop 3))

/-! ## Names of compiled syscalls -/

section Names

variable {cs : List Compiled}

theorem isWord_considered : ∀ name ∈ consideredSyscalls, IsWord name := by
  decide

theorem camelCase_considered : ∀ name ∈ consideredSyscalls,
    Text.camelCase (name ++ "_event") = Text.camelCase name ++ "Event" := by
  decide

/-- No considered syscall has a label that starts with the letter of the mark. -/
theorem label_considered : ∀ name ∈ consideredSyscalls,
    (Text.camelCase name).toList.foldl seen 2 = 0 := by
  decide

theorem isWord_protobuf (name : String) : IsWord ("Protobuf" ++ Text.camelCase name ++ "Event") :=
  IsWord.append (IsWord.append (by decide) (isWord_camelCase name)) (by decide)

theorem isWord_event (name : String) : IsWord (Text.camelCase name ++ "Event") :=
  (isWord_camelCase name).append (by decide)

/-- Every parameter is made of a field. -/
theorem mem_params {τ : Type} {ty : Field → τ} {fields : List Field} {p : Param τ}
    (h : p ∈ Field.params ty fields) : ∃ field ∈ fields, ∃ i, p = field.param i (ty field) := by
  obtain ⟨⟨field, i⟩, hfield, rfl⟩ := List.mem_map.mp h
  exact ⟨field, List.fst_mem_of_mem_zipIdx hfield, i, rfl⟩

theorem wellNamed_messages (h : ∀ c ∈ cs, c.WellNamed) :
    ∀ m ∈ Message.all (cs.map Compiled.wire), m.WellNamed := by
  have hcommon : Message.commonEvent.WellNamed := ⟨by decide, by decide⟩
  have hv4 : Message.connectionV4.WellNamed := ⟨by decide, by decide⟩
  have hv6 : Message.connectionV6.WellNamed := ⟨by decide, by decide⟩
  have hsyscalls : ∀ c ∈ cs, (Message.ofSyscall c.wire).WellNamed := by
    intro c hc
    obtain ⟨name, fields, rfl, -, hfields⟩ := h c hc
    refine ⟨isWord_protobuf name, ?_⟩
    intro field hfield
    obtain ⟨p, hp, rfl⟩ := List.mem_map.mp hfield
    obtain ⟨f, hf, i, rfl⟩ := mem_params hp
    exact hfields f hf
  simp only [Message.all, List.forall_mem_append, List.forall_mem_cons, List.forall_mem_map]
  exact ⟨⟨hcommon, hv4, hv6, by simp⟩, hsyscalls⟩

theorem wellNamed_alternatives (h : ∀ c ∈ cs, c.WellNamed) :
    ∀ a ∈ Alternative.all (cs.map Compiled.wire), a.WellNamed := by
  have hsyscalls : ∀ c ∈ cs, (Alternative.ofSyscall c.wire).WellNamed := by
    intro c hc
    obtain ⟨name, fields, rfl, hname, -⟩ := h c hc
    exact ⟨(isWord_considered name hname).append (by decide), isWord_event name,
      isWord_protobuf name⟩
  simp only [Alternative.all, List.forall_mem_append, List.forall_mem_cons, List.forall_mem_map]
  exact ⟨⟨⟨by decide, by decide, by decide⟩, ⟨by decide, by decide, by decide⟩, by simp⟩, hsyscalls⟩

theorem wellNamed_wire (h : ∀ c ∈ cs, c.WellNamed) : WellNamed (cs.map Compiled.wire) :=
  ⟨wellNamed_messages h, wellNamed_alternatives h⟩

theorem wellNamed_decoder (h : ∀ c ∈ cs, c.WellNamed) :
    ∀ d ∈ cs.map Compiled.decoder, DecoderTree.WellNamed d := by
  rw [List.forall_mem_map]
  intro c hc
  obtain ⟨name, fields, rfl, hname, hfields⟩ := h c hc
  refine ⟨isWord_considered name hname, isWord_event name, ?_, label_considered name hname⟩
  intro p hp
  obtain ⟨f, hf, i, rfl⟩ := mem_params hp
  exact ⟨hfields f hf, isWord_camelCase f.name⟩

/-- The decoder of a compiled syscall. -/
def treeOf (c : Compiled) : DecoderTree :=
  DecoderTree.ofSyscall c.decoder c.record c.wire.typeName

theorem ofSyscalls_ofCompiled (cs : List Compiled) :
    DecoderTree.ofSyscalls (cs.map Compiled.decoder) (cs.map Compiled.record)
      (cs.map Compiled.wire) = cs.map treeOf := by
  induction cs with
  | nil => rfl
  | cons c cs ih => simp [DecoderTree.ofSyscalls, treeOf, ih]

theorem wellSpelled_treeOf (h : ∀ c ∈ cs, c.WellNamed) : ∀ t ∈ cs.map treeOf, t.WellSpelled := by
  rw [List.forall_mem_map]
  intro c hc
  have hdecoder := wellNamed_decoder h c.decoder (List.mem_map_of_mem hc)
  obtain ⟨name, fields, rfl, -, -⟩ := h c hc
  exact DecoderTree.wellSpelled_ofSyscall hdecoder (isWord_protobuf name) _

end Names

/-! ## The texts of compiled syscalls -/

/-- What the texts of compiled syscalls say. -/
def Reading.ofCompiled (cs : List Compiled) : Reading where
  messages := (Message.all (cs.map Compiled.wire)).map (fun m => ⟨m.name, m.protoEntries⟩) ++
    [⟨"Metric", envelopeEntries⟩]
  alternatives := Alternative.protoEntries (Alternative.all (cs.map Compiled.wire))
  structs := (Message.all (cs.map Compiled.wire)).map (fun m => ⟨m.name, m.rustEntries⟩) ++
    [⟨"Metric", envelopeMembers⟩]
  variants := Alternative.rustEntries (Alternative.all (cs.map Compiled.wire))
  constructions := cs.map fun c => ⟨(treeOf c).variantText, (treeOf c).assignments⟩

variable {cs : List Compiled}

theorem Reading.ofTexts?_unlines (h : ∀ c ∈ cs, c.WellNamed) :
    ofTexts? (unlines (protoLines (cs.map Compiled.wire)))
      (unlines (wireLines (cs.map Compiled.wire)))
      (unlines (decoderLines (Schemas.ofCompiled cs))) = some (ofCompiled cs) := by
  have hwire := wellNamed_wire h
  have htrees : ∀ t ∈ DecoderTree.ofSyscalls (cs.map Compiled.decoder) (cs.map Compiled.record)
      (cs.map Compiled.wire), t.WellSpelled := by
    rw [ofSyscalls_ofCompiled]
    exact wellSpelled_treeOf h
  have hconstructions : Artifact.constructions.read?
      (unlines (decoderLines (Schemas.ofCompiled cs))) = some (ofCompiled cs).constructions := by
    have hall : DecoderTree.ofSyscalls (Schemas.ofCompiled cs).decoder
        (Schemas.ofCompiled cs).record (Schemas.ofCompiled cs).wire = cs.map treeOf :=
      ofSyscalls_ofCompiled cs
    rw [constructions_decoderLines htrees (wellNamed_decoder h), hall, List.map_map]
    rfl
  simp only [ofTexts?, protoMessages_protoLines hwire, protoOneofs_protoLines hwire,
    rustStructs_wireLines hwire, rustEnums_wireLines hwire, hconstructions, and_self, if_true]
  rfl

namespace Reading

theorem name_ne_metric (cs : List Compiled) (h : ∀ c ∈ cs, c.WellNamed) :
    ∀ m ∈ Message.all (cs.map Compiled.wire), m.name ≠ "Metric" := by
  have hsyscalls : ∀ c ∈ cs, (Message.ofSyscall c.wire).name ≠ "Metric" := by
    intro c hc
    obtain ⟨name, fields, rfl, -, -⟩ := h c hc
    show "Protobuf" ++ Text.camelCase name ++ "Event" ≠ "Metric"
    rw [String.append_assoc]
    exact Template.append_ne_of_clash (by decide) _
  simp only [Message.all, List.forall_mem_append, List.forall_mem_cons, List.forall_mem_map]
  exact ⟨⟨by decide, by decide, by decide, by simp⟩, hsyscalls⟩

/-- Without the envelope, the blocks made of messages are left. -/
theorem filter_envelope {β : Type} {messages : List Message} (h : ∀ m ∈ messages, m.name ≠ "Metric")
    (entries : Message → List β) (envelope : List β) :
    (messages.map (fun m : Message => Block.mk m.name (entries m)) ++
        [Block.mk "Metric" envelope]).filter
          (fun block : Block String β => block.header ≠ "Metric") =
      messages.map fun m : Message => Block.mk m.name (entries m) := by
  have hmessages : ∀ block ∈ messages.map (fun m : Message => Block.mk m.name (entries m)),
      decide (block.header ≠ "Metric") = true := by
    rw [List.forall_mem_map]
    intro m hm
    exact decide_eq_true (h m hm)
  rw [List.filter_append, List.filter_eq_self.mpr hmessages]
  simp

theorem payloads_ofCompiled (h : ∀ c ∈ cs, c.WellNamed) :
    (ofCompiled cs).payloads =
      (Message.all (cs.map Compiled.wire)).map fun m => ⟨m.name, m.protoEntries⟩ :=
  filter_envelope (name_ne_metric cs h) Message.protoEntries envelopeEntries

theorem mirrors_ofCompiled (h : ∀ c ∈ cs, c.WellNamed) :
    (ofCompiled cs).mirrors =
      (Message.all (cs.map Compiled.wire)).map fun m => ⟨m.name, m.rustEntries⟩ :=
  filter_envelope (name_ne_metric cs h) Message.rustEntries envelopeMembers

/-- Items that are numbered are related to the same items as they are. -/
theorem forall₂_zipIdx {ι γ δ : Type} {R : γ → δ → Prop} {items : List ι} {first : Nat}
    {left : ι × Nat → γ} {right : ι → δ}
    (h : ∀ item ∈ items.zipIdx first, R (left item) (right item.1)) :
    List.Forall₂ R ((items.zipIdx first).map left) (items.map right) := by
  have hright : items.map right = (items.zipIdx first).map fun item => right item.1 := by
    conv_lhs => rw [← List.zipIdx_map_fst first items, List.map_map]
    rfl
  rw [hright]
  exact forall₂_map h

/-- Entries are numbered as the items are that they are made of. -/
theorem tags_zipIdx {ι : Type} (items : List ι) (first : Nat) {entry : ι × Nat → ProtoEntry}
    (h : ∀ item, (entry item).tag = item.2) :
    ((items.zipIdx first).map entry).map ProtoEntry.tag =
      List.range' first ((items.zipIdx first).map entry).length := by
  have htag : ProtoEntry.tag ∘ entry = Prod.snd := funext h
  rw [List.map_map, htag, List.zipIdx_map_snd, List.length_map, List.length_zipIdx]

/-- The struct of a message mirrors it. -/
theorem mirrors_message (m : Message) :
    Mirrors ⟨m.name, m.protoEntries⟩ ⟨m.name, m.rustEntries⟩ where
  header := rfl
  entries := forall₂_zipIdx fun x _ => ⟨rfl, x.1.2, rfl, rfl⟩

theorem carries_message (s : Syscall WireType) :
    Carries ⟨s.typeName, (Message.ofSyscall s).protoEntries⟩ s := by
  refine ⟨rfl, ?_⟩
  show (Message.ofSyscall s).protoEntries.map _ = _
  have hentries : (Message.ofSyscall s).protoEntries.map (fun e => (e.type, e.name)) =
      (((Message.ofSyscall s).fields.zipIdx 1).map Prod.fst).map
        fun field => (field.2.protoName, field.1) := by
    rw [Message.protoEntries, List.map_map, List.map_map]
    rfl
  rw [hentries, List.zipIdx_map_fst, Message.ofSyscall, List.map_map]
  rfl

theorem getElem?_alternatives {syscalls : List (Syscall WireType)} {i : Nat} {s : Syscall WireType}
    (h : syscalls[i]? = some s) :
    (Alternative.protoEntries (Alternative.all syscalls))[2 + i]? =
      some ⟨s.typeName, s.name ++ "_event", 5 + i⟩ := by
  have hall : (Alternative.all syscalls)[2 + i]? = some (Alternative.ofSyscall s) := by
    rw [Alternative.all, List.getElem?_append_right (by simp)]
    simp [h]
  rw [Alternative.protoEntries, List.getElem?_map, List.getElem?_zipIdx, hall]
  simp only [Option.map_some, Option.some.injEq, ProtoEntry.mk.injEq]
  exact ⟨rfl, rfl, by omega⟩

/-- Alternatives become variants with their names in camel case. -/
theorem variants_alternatives (h : ∀ c ∈ cs, c.WellNamed) :
    List.Forall₂ (fun (a : ProtoEntry) (v : RustVariant) =>
        v.message = a.type ∧ v.name = Text.camelCase a.name)
      (ofCompiled cs).alternatives (ofCompiled cs).variants := by
  have hnames : ∀ a ∈ Alternative.all (cs.map Compiled.wire),
      a.variant = Text.camelCase a.field := by
    have hsyscalls : ∀ c ∈ cs, (Alternative.ofSyscall c.wire).variant =
        Text.camelCase (Alternative.ofSyscall c.wire).field := by
      intro c hc
      obtain ⟨name, fields, rfl, hname, -⟩ := h c hc
      exact (camelCase_considered name hname).symm
    simp only [Alternative.all, List.forall_mem_append, List.forall_mem_cons, List.forall_mem_map]
    exact ⟨⟨by decide, by decide, by simp⟩, hsyscalls⟩
  show List.Forall₂ _ (Alternative.protoEntries _) (Alternative.rustEntries _)
  exact forall₂_zipIdx fun x hx => ⟨rfl, hnames x.1 (List.fst_mem_of_mem_zipIdx hx)⟩

/-- The decoder of a syscall constructs its variant, with the fields of its struct. -/
theorem constructs_treeOf {c : Compiled} (h : c.WellNamed) :
    Constructs ⟨(treeOf c).variantText, (treeOf c).assignments⟩
      ⟨c.wire.label ++ "Event", c.wire.typeName⟩
      ⟨c.wire.typeName, (Message.ofSyscall c.wire).rustEntries⟩ := by
  obtain ⟨name, fields, rfl, -, -⟩ := h
  refine ⟨rfl, rfl, ?_, ?_⟩
  · have hexports : (treeOf (Compiled.ofFields name fields)).assignments.map Assignment.field =
        fields.zipIdx.map fun x => rustField x.1.name := by
      simp [DecoderTree.assignments, treeOf, DecoderTree.ofSyscall, Compiled.ofFields, Field.params,
        Field.param, paramExport_field, Function.comp_def]
    have hstruct : (Message.ofSyscall (Compiled.ofFields name fields).wire).rustEntries.map
        RustField.name = fields.zipIdx.map fun x => rustField x.1.name := by
      simp [Message.rustEntries, Message.ofSyscall, Compiled.ofFields, Field.params, Field.param,
        Function.comp_def]
    rw [hexports, hstruct]
  · intro e he
    obtain ⟨f, -, rfl⟩ := List.mem_map.mp he
    rfl

/-- **What the texts of compiled syscalls say agrees.** -/
theorem agrees_ofCompiled (h : ∀ c ∈ cs, c.WellNamed)
    (hordered : ((cs.map Compiled.wire).map Syscall.name).Pairwise (· ≤ ·)) :
    (ofCompiled cs).Agrees (cs.map Compiled.wire) where
  ordered := hordered
  mirrored := by
    rw [payloads_ofCompiled h, mirrors_ofCompiled h]
    exact forall₂_map fun m _ => mirrors_message m
  numbered := by
    have hmessages : ∀ m ∈ (Message.all (cs.map Compiled.wire)).map
        (fun m : Message => Block.mk m.name m.protoEntries),
        m.entries.map ProtoEntry.tag = List.range' 1 m.entries.length := by
      rw [List.forall_mem_map]
      exact fun m _ => tags_zipIdx m.fields 1 fun _ => rfl
    intro m hm
    rcases List.mem_append.mp hm with hm | hm
    · exact hmessages m hm
    · rw [List.mem_singleton.mp hm]
      rfl
  carried := by
    rw [payloads_ofCompiled h, ← List.map_drop]
    show List.Forall₂ Carries (((cs.map Compiled.wire).map Message.ofSyscall).map _) _
    rw [List.map_map, List.forall₂_map_left_iff, List.forall₂_same]
    exact fun s _ => carries_message s
  envelope := ⟨⟨"Metric", envelopeEntries⟩, List.mem_append_right _ List.mem_cons_self, rfl, rfl⟩
  tags := tags_zipIdx _ 3 fun _ => rfl
  alternatives := by
    refine ⟨?_, fun i s hs => getElem?_alternatives hs⟩
    simp only [ofCompiled, Alternative.protoEntries, Alternative.all, List.length_map,
      List.length_zipIdx, List.length_append, List.length_cons, List.length_nil]
  variants := variants_alternatives h
  constructed := by
    have hvariants : (ofCompiled cs).variants.drop 2 =
        cs.map fun c => ⟨c.wire.label ++ "Event", c.wire.typeName⟩ := by
      show ((cs.map Compiled.wire).map Alternative.ofSyscall).map _ = _
      rw [List.map_map, List.map_map]
      rfl
    have hstructs : (ofCompiled cs).mirrors.drop 3 =
        cs.map fun c => ⟨c.wire.typeName, (Message.ofSyscall c.wire).rustEntries⟩ := by
      rw [mirrors_ofCompiled h, ← List.map_drop]
      show ((cs.map Compiled.wire).map Message.ofSyscall).map _ = _
      rw [List.map_map, List.map_map]
      rfl
    rw [hvariants, hstructs, List.zip_map']
    exact forall₂_map fun c hc => constructs_treeOf (h c hc)

end Reading

end Artifact

/-! ## Directories -/

open Artifact

namespace Gathered

theorem aligned_of_compiled {entries : List DirectoryEntry} {cs : List Compiled}
    (h : entries.filterMap DirectoryEntry.compiled? = cs.map .ok) : ∀ c ∈ cs, c.Aligned := by
  intro c hc
  obtain ⟨entry, -, hcompiled⟩ := (mem_compiled h).mp hc
  obtain ⟨syscall, text, -, hok⟩ := DirectoryEntry.compiled?_eq_some.mp hcompiled
  exact Compiled.aligned hok

end Gathered

/-- Schemas of which the generated texts describe the same messages. -/
def Schemas.Consistent (schemas : Schemas) : Prop :=
  ∃ proto wire decoder reading,
    protoSource schemas = .ok proto ∧ wireSource schemas = .ok wire ∧
    decoderSource schemas = .ok decoder ∧
    Reading.ofTexts? proto wire decoder = some reading ∧ reading.Agrees schemas.wire

theorem Schemas.consistent_ofCompiled {cs : List Compiled} (hne : cs ≠ [])
    (haligned : ∀ c ∈ cs, c.Aligned) (hnamed : ∀ c ∈ cs, c.WellNamed)
    (hordered : (cs.map fun c => c.decoder.name).Pairwise (· ≤ ·)) :
    (Schemas.ofCompiled cs).Consistent := by
  have hcheck : (Schemas.ofCompiled cs).checkAligned = .ok () :=
    Schemas.checkAligned_eq_ok.mpr (Schemas.aligned_ofCompiled hne haligned)
  have hnames : (cs.map Compiled.wire).map Syscall.name = cs.map fun c => c.decoder.name := by
    rw [List.map_map]
    exact List.map_congr_left fun c hc => (haligned c hc).wire_name
  refine ⟨_, _, _, _, ?_, ?_, ?_, Reading.ofTexts?_unlines hnamed,
    Reading.agrees_ofCompiled hnamed (hnames ▸ hordered)⟩
  · rw [protoSource, hcheck]
    rfl
  · rw [wireSource, hcheck]
    rfl
  · rw [decoderSource, hcheck]

/-- **The generated texts describe the same messages**, for all syscalls of which there is at least
one that a directory of tracepoints is compiled to, whatever it lists. -/
theorem messages_contract {m : Type → Type} [Monad m] [LawfulMonad m] (files : Files m)
    (directory : Bytes) :
    Build.gather files directory = Build.gathered directory <$> files.list directory ∧
      ∀ listed schemas, (Build.gathered directory listed).1 = .ok schemas →
        schemas.isEmpty = false → schemas.Consistent := by
  refine ⟨Build.gather_eq files directory, ?_⟩
  intro listed schemas hok hne
  cases listed with
  | error e => cases hok
  | ok entries =>
    obtain ⟨cs, hcs, rfl⟩ := (Gathered.result_eq_ok directory).mp (Build.gathered_eq_ok.mp hok)
    have hsorted : ∀ c ∈ Compiled.sorted cs, c ∈ cs := fun c hc =>
      (Compiled.sorted_perm cs).subset hc
    have haligned : ∀ c ∈ Compiled.sorted cs, c.Aligned := fun c hc =>
      Gathered.aligned_of_compiled hcs c (hsorted c hc)
    have hnamed : ∀ c ∈ Compiled.sorted cs, c.WellNamed := fun c hc =>
      Gathered.wellNamed hcs c (hsorted c hc)
    refine Schemas.consistent_ofCompiled ?_ haligned hnamed
      (List.pairwise_map.mpr (Compiled.sorted_ordered cs))
    intro hnil
    rw [hnil] at hne
    cases hne

/-- Two syscalls that are listed against their order. -/
theorem messages_openAndClose :
    LawfulMonad Id ∧ ∃ schemas, (Build.gathered [] (.ok openAndClose)).1 = .ok schemas ∧
      schemas.isEmpty = false ∧ schemas.Consistent := by
  have hcompiled : openAndClose.given.filterMap DirectoryEntry.compiled? =
      openAndCloseCompiled.map .ok := by
    decide +kernel
  have hok := Build.gathered_eq_ok.mpr ((Gathered.result_eq_ok []).mpr ⟨_, hcompiled, rfl⟩)
  have hne : (Schemas.ofCompiled (Compiled.sorted openAndCloseCompiled)).isEmpty = false := by
    have hlength : (Compiled.sorted openAndCloseCompiled).length = 2 :=
      (Compiled.sorted_perm _).length_eq
    rw [Schemas.isEmpty, Schemas.ofCompiled, List.isEmpty_eq_false_iff, ← List.length_pos_iff,
      List.length_map, hlength]
    omega
  let files : Files Id := ⟨fun _ => .ok openAndClose, fun _ => .ok (), fun _ _ => .ok ()⟩
  exact ⟨inferInstance, _, hok, hne, (messages_contract files []).2 _ _ hok hne⟩

end Tracepoint
