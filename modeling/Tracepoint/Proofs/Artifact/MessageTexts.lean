import Mathlib
import Tracepoint.Artifact.Proto
import Tracepoint.Artifact.Wire
import Tracepoint.Proofs.Artifact.Words

/-!
# Messages in generated texts

Messages are read back from the protocol definition and from the wire source, and so is the
envelope around them.  Both texts are read as anyone would read them, by keywords, indentation and
braces.  A message that is closed on the line that opens it is not read; it has no fields.

* `protoMessages_protoLines`, `protoOneofs_protoLines` — what a protocol definition says;
* `rustStructs_wireLines`, `rustEnums_wireLines` — what a wire source says.
-/

set_option autoImplicit false

namespace Tracepoint.Artifact

open Text (newlines)

/-! ## Keywords and braces -/

/-- The name between a keyword and an opening brace. -/
def opened? (keyword line : String) : Option String :=
  (Template.read? ⟨keyword, [" \x7b"]⟩ line).bind List.head?

theorem opened?_eq {name : String} (h : IsWord name) (keyword : String) :
    opened? keyword (keyword ++ name ++ " \x7b") = some name := by
  have hline : keyword ++ name ++ " \x7b" = Template.line ⟨keyword, [" \x7b"]⟩ [name] := by
    simp [Template.line, String.append_assoc]
  have hends : List.Forall₂ Template.Ends [name] [" \x7b"] := .cons (h.ends (by decide)) .nil
  rw [opened?, hline, Template.read?_line _ hends]
  rfl

theorem opened?_of_clash {keyword start : String} (h : Template.Clash keyword start)
    (rest : String) : opened? keyword (start ++ rest) = none := by
  rw [opened?, Template.read?_of_clash ⟨keyword, [" \x7b"]⟩ h, Option.bind_none]

/-- Blocks that a keyword, a name and a brace open, up to one of some lines. -/
def keyed {β : Type} (keyword : String) (closings : List String) (entryOf? : String → Option β) :
    Grammar String β where
  header? := opened? keyword
  closes line := line ∈ closings
  entryOf?

section Keyed

variable {β : Type} {keyword : String} {closings : List String} {entryOf? : String → Option β}
  {start : String}

theorem header?_of_clash (h : Template.Clash keyword start) (rest : String) :
    (keyed keyword closings entryOf?).header? (start ++ rest) = none :=
  opened?_of_clash h rest

/-- A line that starts like neither a keyword nor a closing line is an entry. -/
theorem isEntry_keyed {rest : String} {entry : β} (hkeyword : Template.Clash keyword start)
    (hclosings : ∀ c ∈ closings, Template.Clash c start)
    (hentry : entryOf? (start ++ rest) = some entry) :
    (keyed keyword closings entryOf?).IsEntry (start ++ rest) entry where
  header := header?_of_clash hkeyword rest
  closes := by
    have hnot : start ++ rest ∉ closings := fun hmem =>
      Template.append_ne_of_clash (hclosings _ hmem) rest rfl
    show decide (start ++ rest ∈ closings) = false
    exact decide_eq_false hnot
  entry := hentry

end Keyed

/-! ## Protocol definitions -/

/-- A numbered entry of a message or of an envelope. -/
structure ProtoEntry where
  type : String
  name : String
  tag : Nat
  deriving DecidableEq, Repr

namespace ProtoEntry

/-- Reads a numbered entry. -/
def read? (indent line : String) : Option ProtoEntry :=
  match Template.read? ⟨indent, [" ", " = ", ";"]⟩ line with
  | some [type, name, tag] => tag.toNat?.map fun tag => ⟨type, name, tag⟩
  | _ => none

theorem read?_protoEntry {type name : String} (htype : IsWord type) (hname : IsWord name)
    (indent : String) (tag : Nat) :
    read? indent (protoEntry indent type name tag) = some ⟨type, name, tag⟩ := by
  have hline : protoEntry indent type name tag =
      Template.line ⟨indent, [" ", " = ", ";"]⟩ [type, name, tag.repr] := by
    simp [protoEntry, Template.line, String.append_assoc]
  have hends : List.Forall₂ Template.Ends [type, name, tag.repr] [" ", " = ", ";"] :=
    .cons (htype.ends (by decide)) (.cons (hname.ends (by decide))
      (.cons ((isWord_repr tag).ends (by decide)) .nil))
  rw [read?, hline, Template.read?_line _ hends]
  simp [Nat.toNat?_repr]

end ProtoEntry

theorem protoEntry_eq (indent type name : String) (tag : Nat) :
    protoEntry indent type name tag =
      indent ++ type ++ (" " ++ name ++ " = " ++ toString tag ++ ";") := by
  simp only [protoEntry, String.append_assoc]

/-- Messages.  The fields of one end where its alternatives begin. -/
def protoMessages : Grammar String ProtoEntry :=
  keyed "message " ["\x7d", "  oneof event \x7b"] (ProtoEntry.read? "  ")

/-- The alternatives of an envelope. -/
def protoOneofs : Grammar String ProtoEntry :=
  keyed "  oneof " ["  \x7d"] (ProtoEntry.read? "    ")

/-- A message with words for its name and its fields. -/
structure Message.WellNamed (m : Message) : Prop where
  name : IsWord m.name
  fields : ∀ field ∈ m.fields, IsWord field.1

/-- An alternative with words for its three names. -/
structure Alternative.WellNamed (a : Alternative) : Prop where
  field : IsWord a.field
  variant : IsWord a.variant
  message : IsWord a.message

/-- The fields of a message as numbered entries. -/
def Message.protoEntries (m : Message) : List ProtoEntry :=
  (m.fields.zipIdx 1).map fun ((name, ty), tag) => ⟨ty.protoName, name, tag⟩

/-- The alternatives of an envelope as numbered entries. -/
def Alternative.protoEntries (alternatives : List Alternative) : List ProtoEntry :=
  (alternatives.zipIdx 3).map fun (a, tag) => ⟨a.message, a.field, tag⟩

/-- The fields of the envelope that are no alternatives. -/
def envelopeEntries : List ProtoEntry :=
  [⟨"uint64", "count", 1⟩, ⟨Message.commonEvent.name, "common_event", 2⟩]

theorem isWord_protoName (ty : WireType) : IsWord ty.protoName := by
  cases ty <;> decide

theorem newlines_protoEntry {indent type name : String} (hindent : newlines indent = 0)
    (htype : IsWord type) (hname : IsWord name) (tag : Nat) :
    newlines (protoEntry indent type name tag) = 0 := by
  simp +decide [protoEntry, hindent, htype.newlines, hname.newlines]

namespace Message

variable {m : Message}

theorem isEntry_protoFields (h : m.WellNamed) :
    List.Forall₂ protoMessages.IsEntry m.protoFields m.protoEntries := by
  refine forall₂_map ?_
  rintro ⟨⟨name, ty⟩, tag⟩ hfield
  have hname : IsWord name := h.fields _ (List.fst_mem_of_mem_zipIdx hfield)
  have hread := ProtoEntry.read?_protoEntry (isWord_protoName ty) hname "  " tag
  rw [protoEntry_eq] at hread
  show protoMessages.IsEntry (protoEntry "  " ty.protoName name tag) _
  rw [protoEntry_eq]
  exact isEntry_keyed (by cases ty <;> decide) (by cases ty <;> decide) hread

theorem reads_protoLines (h : m.WellNamed) :
    protoMessages.Reads m.protoLines [⟨m.name, m.protoEntries⟩] := by
  have hblank : protoMessages.Reads [""] [] := Grammar.reads_nil (by decide)
  exact hblank.append (Grammar.reads_block (opened?_eq h.name _) (isEntry_protoFields h)
    (by decide) (by decide))

theorem oneofs_protoLines (m : Message) :
    ∀ line ∈ m.protoLines, protoOneofs.header? line = none := by
  have hopening : protoOneofs.header? ("message " ++ m.name ++ " \x7b") = none := by
    rw [String.append_assoc]
    exact header?_of_clash (by decide) _
  have hfields : ∀ line ∈ m.protoFields, protoOneofs.header? line = none := by
    intro line hline
    obtain ⟨⟨⟨name, ty⟩, tag⟩, -, rfl⟩ := List.mem_map.mp hline
    show protoOneofs.header? (protoEntry "  " ty.protoName name tag) = none
    rw [protoEntry_eq]
    exact header?_of_clash (by cases ty <;> decide) _
  simp only [protoLines, List.forall_mem_append, List.forall_mem_cons]
  exact ⟨⟨⟨by decide, hopening, by simp⟩, hfields⟩, by decide⟩

theorem newlines_protoLines (h : m.WellNamed) : ∀ line ∈ m.protoLines, newlines line = 0 := by
  have hfields : ∀ line ∈ m.protoFields, newlines line = 0 := by
    intro line hline
    obtain ⟨⟨⟨name, ty⟩, tag⟩, hfield, rfl⟩ := List.mem_map.mp hline
    exact newlines_protoEntry (by decide) (isWord_protoName ty)
      (h.fields _ (List.fst_mem_of_mem_zipIdx hfield)) tag
  simp only [protoLines, List.forall_mem_append, List.forall_mem_cons]
  exact ⟨⟨⟨by decide, by simp +decide [h.name.newlines], by simp⟩, hfields⟩, by decide⟩

end Message

section Envelope

variable {alternatives : List Alternative}

theorem isEntry_protoAlternatives (h : ∀ a ∈ alternatives, a.WellNamed) :
    List.Forall₂ protoOneofs.IsEntry (protoAlternatives alternatives)
      (Alternative.protoEntries alternatives) := by
  refine forall₂_map ?_
  rintro ⟨a, tag⟩ ha
  have hnamed := h a (List.fst_mem_of_mem_zipIdx ha)
  have hread := ProtoEntry.read?_protoEntry hnamed.message hnamed.field "    " tag
  rw [protoEntry_eq, String.append_assoc] at hread
  show protoOneofs.IsEntry (protoEntry "    " a.message a.field tag) _
  rw [protoEntry_eq, String.append_assoc]
  exact isEntry_keyed (by decide) (by decide) hread

theorem messages_protoAlternatives (alternatives : List Alternative) :
    ∀ line ∈ protoAlternatives alternatives, protoMessages.header? line = none := by
  intro line hline
  obtain ⟨⟨a, tag⟩, -, rfl⟩ := List.mem_map.mp hline
  show protoMessages.header? (protoEntry "    " a.message a.field tag) = none
  rw [protoEntry_eq, String.append_assoc]
  exact header?_of_clash (by decide) _

theorem newlines_protoAlternatives (h : ∀ a ∈ alternatives, a.WellNamed) :
    ∀ line ∈ protoAlternatives alternatives, newlines line = 0 := by
  intro line hline
  obtain ⟨⟨a, tag⟩, ha, rfl⟩ := List.mem_map.mp hline
  have hnamed := h a (List.fst_mem_of_mem_zipIdx ha)
  exact newlines_protoEntry (by decide) hnamed.message hnamed.field tag

end Envelope

/-- Syscalls of which all messages and alternatives are made of words. -/
structure WellNamed (syscalls : List (Syscall WireType)) : Prop where
  messages : ∀ m ∈ Message.all syscalls, m.WellNamed
  alternatives : ∀ a ∈ Alternative.all syscalls, a.WellNamed

/-- What a protocol definition has before its messages. -/
def protoFront : List String :=
  banner ++ ["", "syntax = \"proto3\";", "", "package tracewell;"]

/-- What it has between its messages and its envelope. -/
def protoMiddle : List String := [
  "",
  "service MetricCollector \x7b",
  "  rpc Process (stream Metric) returns (Empty) \x7b\x7d",
  "\x7d",
  "",
  "message Empty \x7b\x7d",
  ""]

/-- The fields of the envelope as they are written. -/
def envelopeFields : List String := [
  protoEntry "  " "uint64" "count" 1,
  protoEntry "  " Message.commonEvent.name "common_event" 2]

theorem isEntry_envelopeFields :
    List.Forall₂ protoMessages.IsEntry envelopeFields envelopeEntries := by
  have hcount : ProtoEntry.read? "  " (protoEntry "  " "uint64" "count" 1) =
      some ⟨"uint64", "count", 1⟩ :=
    ProtoEntry.read?_protoEntry (by decide) (by decide) _ _
  have hcommon : ProtoEntry.read? "  " (protoEntry "  " Message.commonEvent.name "common_event" 2) =
      some ⟨Message.commonEvent.name, "common_event", 2⟩ :=
    ProtoEntry.read?_protoEntry (by decide) (by decide) _ _
  exact .cons ⟨by decide, by decide, hcount⟩ (.cons ⟨by decide, by decide, hcommon⟩ .nil)

variable {syscalls : List (Syscall WireType)}

theorem protoLines_eq (syscalls : List (Syscall WireType)) :
    protoLines syscalls =
      protoFront ++ ((Message.all syscalls).flatMap Message.protoLines ++
        (protoMiddle ++ (("message Metric \x7b" :: envelopeFields ++ ["  oneof event \x7b"]) ++
          (protoAlternatives (Alternative.all syscalls) ++ ["  \x7d", "\x7d"])))) := by
  simp [protoLines, protoFront, protoMiddle, envelopeFields]

theorem newlines_protoLines (h : WellNamed syscalls) :
    ∀ line ∈ protoLines syscalls, newlines line = 0 := by
  have hmessages : ∀ line ∈ (Message.all syscalls).flatMap Message.protoLines,
      newlines line = 0 :=
    List.forall_mem_flatMap.mpr fun m hm => Message.newlines_protoLines (h.messages m hm)
  simp only [protoLines_eq, List.forall_mem_append]
  exact ⟨by decide, hmessages, by decide, by decide,
    newlines_protoAlternatives h.alternatives, by decide⟩

/-- **The messages of a protocol definition**: those of the syscalls, and the envelope. -/
theorem protoMessages_protoLines (h : WellNamed syscalls) :
    protoMessages.read? (unlines (protoLines syscalls)) =
      some ((Message.all syscalls).map (fun m => ⟨m.name, m.protoEntries⟩) ++
        [⟨"Metric", envelopeEntries⟩]) := by
  refine Grammar.Reads.read? ?_ (newlines_protoLines h) (by decide)
  have hfront : protoMessages.Reads protoFront [] := Grammar.reads_nil (by decide)
  have hmessages : protoMessages.Reads ((Message.all syscalls).flatMap Message.protoLines)
      ((Message.all syscalls).map fun m => ⟨m.name, m.protoEntries⟩) :=
    Grammar.Reads.flatMap fun m hm => Message.reads_protoLines (h.messages m hm)
  have hmiddle : protoMessages.Reads protoMiddle [] := Grammar.reads_nil (by decide)
  have henvelope : protoMessages.Reads
      ("message Metric \x7b" :: envelopeFields ++ ["  oneof event \x7b"])
      [⟨"Metric", envelopeEntries⟩] :=
    Grammar.reads_block (by decide) isEntry_envelopeFields (by decide) (by decide)
  have halternatives : protoMessages.Reads
      (protoAlternatives (Alternative.all syscalls) ++ ["  \x7d", "\x7d"]) [] := by
    refine Grammar.reads_nil ?_
    rw [List.forall_mem_append]
    exact ⟨messages_protoAlternatives _, by decide⟩
  have hall := hfront.append (hmessages.append (hmiddle.append (henvelope.append halternatives)))
  rw [protoLines_eq]
  simpa using hall

/-- **The alternatives of a protocol definition.** -/
theorem protoOneofs_protoLines (h : WellNamed syscalls) :
    protoOneofs.read? (unlines (protoLines syscalls)) =
      some [⟨"event", Alternative.protoEntries (Alternative.all syscalls)⟩] := by
  refine Grammar.Reads.read? ?_ (newlines_protoLines h) (by decide)
  have hbefore : protoOneofs.Reads (protoFront ++
      ((Message.all syscalls).flatMap Message.protoLines ++
        (protoMiddle ++ ("message Metric \x7b" :: envelopeFields)))) [] := by
    refine Grammar.reads_nil ?_
    simp only [List.forall_mem_append]
    exact ⟨by decide, List.forall_mem_flatMap.mpr fun m _ => m.oneofs_protoLines, by decide,
      by decide⟩
  have hevent : protoOneofs.Reads
      ("  oneof event \x7b" :: protoAlternatives (Alternative.all syscalls) ++ ["  \x7d"])
      [⟨"event", Alternative.protoEntries (Alternative.all syscalls)⟩] :=
    Grammar.reads_block (by decide) (isEntry_protoAlternatives h.alternatives) (by decide)
      (by decide)
  have hafter : protoOneofs.Reads ["\x7d"] [] := Grammar.reads_nil (by decide)
  have hall := hbefore.append (hevent.append hafter)
  rw [protoLines_eq]
  simpa using hall

/-! ## Wire sources -/

/-- A field of a struct. -/
structure RustField where
  name : String
  type : String
  deriving DecidableEq, Repr

/-- A variant of an enum, with the type of what it carries. -/
structure RustVariant where
  name : String
  message : String
  deriving DecidableEq, Repr

/-- Reads a field of a struct. -/
def RustField.read? (line : String) : Option RustField :=
  match Template.read? ⟨"    pub ", [": ", ","]⟩ line with
  | some [name, type] => some ⟨name, type⟩
  | _ => none

/-- Reads a variant of an enum. -/
def RustVariant.read? (line : String) : Option RustVariant :=
  match Template.read? ⟨"        ", ["(", "),"]⟩ line with
  | some [name, message] => some ⟨name, message⟩
  | _ => none

theorem RustField.read?_eq {name type : String} (hname : IsWord name)
    (htype : Template.Ends type ",") :
    read? ("    pub " ++ name ++ ": " ++ type ++ ",") = some ⟨name, type⟩ := by
  have hline : "    pub " ++ name ++ ": " ++ type ++ "," =
      Template.line ⟨"    pub ", [": ", ","]⟩ [name, type] := by
    simp [Template.line, String.append_assoc]
  have hends : List.Forall₂ Template.Ends [name, type] [": ", ","] :=
    .cons (hname.ends (by decide)) (.cons htype .nil)
  rw [read?, hline, Template.read?_line _ hends]

theorem RustVariant.read?_eq {name message : String} (hname : IsWord name)
    (hmessage : IsWord message) :
    read? ("        " ++ name ++ "(" ++ message ++ "),") = some ⟨name, message⟩ := by
  have hline : "        " ++ name ++ "(" ++ message ++ ")," =
      Template.line ⟨"        ", ["(", "),"]⟩ [name, message] := by
    simp [Template.line, String.append_assoc]
  have hends : List.Forall₂ Template.Ends [name, message] ["(", "),"] :=
    .cons (hname.ends (by decide)) (.cons (hmessage.ends (by decide)) .nil)
  rw [read?, hline, Template.read?_line _ hends]

/-- Structs. -/
def rustStructs : Grammar String RustField :=
  keyed "pub struct " ["\x7d"] RustField.read?

/-- Enums in a module. -/
def rustEnums : Grammar String RustVariant :=
  keyed "    pub enum " ["    \x7d"] RustVariant.read?

/-- The fields of a message as fields of a struct. -/
def Message.rustEntries (m : Message) : List RustField :=
  m.fields.map fun (name, ty) => ⟨rustField name, rustWireType ty⟩

/-- The alternatives of an envelope as variants of an enum. -/
def Alternative.rustEntries (alternatives : List Alternative) : List RustVariant :=
  alternatives.map fun a => ⟨a.variant, a.message⟩

/-- The fields of the envelope in a wire source. -/
def envelopeMembers : List RustField := [
  ⟨"count", "u64"⟩,
  ⟨"common_event", "Option<ProtobufCommonEvent>"⟩,
  ⟨"event", "Option<metric::Event>"⟩]

theorem ends_rustWireType (ty : WireType) : Template.Ends (rustWireType ty) "," :=
  ⟨',', [], rfl, by cases ty <;> decide⟩

theorem newlines_rustWireType (ty : WireType) : newlines (rustWireType ty) = 0 := by
  cases ty <;> decide

/-- A field does not look like what a keyword opens, even if its name starts with that word: a colon
follows the name. -/
theorem not_prefix_field {keyword name : String} (hkeyword : IsWord keyword) (hname : IsWord name)
    (rest : String) :
    ¬ ("    pub " ++ (keyword ++ " ")).toList <+:
      ("    pub " ++ (name ++ (": " ++ rest))).toList := by
  rintro ⟨tail, heq⟩
  have hwords : keyword.toList ++ ' ' :: tail = name.toList ++ ':' :: ' ' :: rest.toList := by
    simp only [String.toList_append, List.append_assoc] at heq
    exact (List.append_right_inj "    pub ".toList).mp heq
  have hends := congrArg (List.dropWhile isWordChar) hwords
  rw [List.dropWhile_append_of_pos hkeyword, List.dropWhile_append_of_pos hname,
    List.dropWhile_cons_of_neg (by decide), List.dropWhile_cons_of_neg (by decide)] at hends
  cases hends

namespace Message

variable {m : Message}

/-- The fields of a struct as they are written. -/
def rustFields (m : Message) : List String :=
  m.fields.map fun (name, ty) => "    pub " ++ rustField name ++ ": " ++ rustWireType ty ++ ","

theorem isEntry_rustFields (h : m.WellNamed) :
    List.Forall₂ rustStructs.IsEntry m.rustFields m.rustEntries := by
  refine forall₂_map ?_
  rintro ⟨name, ty⟩ hfield
  have hread := RustField.read?_eq (isWord_rustField (h.fields _ hfield)) (ends_rustWireType ty)
  simp only [String.append_assoc] at hread ⊢
  exact isEntry_keyed (by decide) (by decide) hread

theorem rustLines_eq (m : Message) :
    m.rustLines = ["", "#[derive(Clone, Debug, Default, PartialEq, Eq)]"] ++
      (("pub struct " ++ m.name ++ " \x7b") :: m.rustFields ++ ["\x7d"]) :=
  rfl

theorem reads_rustLines (h : m.WellNamed) :
    rustStructs.Reads m.rustLines [⟨m.name, m.rustEntries⟩] := by
  have hbefore : rustStructs.Reads ["", "#[derive(Clone, Debug, Default, PartialEq, Eq)]"] [] :=
    Grammar.reads_nil (by decide)
  exact hbefore.append (Grammar.reads_block (opened?_eq h.name _) (isEntry_rustFields h)
    (by decide) (by decide))

theorem enums_field {name : String} (hname : IsWord name) (rest : String) :
    rustEnums.header? ("    pub " ++ (name ++ (": " ++ rest))) = none := by
  have henum : IsWord "enum" := by decide
  have hfront : "    pub enum " = "    pub " ++ ("enum" ++ " ") := by decide
  show opened? "    pub enum " _ = none
  rw [opened?, hfront, Template.read?,
    FieldLine.after?_eq_none.mpr (not_prefix_field henum hname rest)]
  rfl

theorem enums_rustLines (h : m.WellNamed) :
    ∀ line ∈ m.rustLines, rustEnums.header? line = none := by
  have hopening : rustEnums.header? ("pub struct " ++ m.name ++ " \x7b") = none := by
    rw [String.append_assoc]
    exact header?_of_clash (by decide) _
  have hfields : ∀ line ∈ m.rustFields, rustEnums.header? line = none := by
    intro line hline
    obtain ⟨⟨name, ty⟩, hfield, rfl⟩ := List.mem_map.mp hline
    simp only [String.append_assoc]
    exact enums_field (isWord_rustField (h.fields _ hfield)) _
  simp only [rustLines_eq, List.forall_mem_append, List.forall_mem_cons]
  exact ⟨by decide, ⟨hopening, hfields⟩, by decide⟩

theorem newlines_rustLines (h : m.WellNamed) : ∀ line ∈ m.rustLines, newlines line = 0 := by
  have hfields : ∀ line ∈ m.rustFields, newlines line = 0 := by
    intro line hline
    obtain ⟨⟨name, ty⟩, hfield, rfl⟩ := List.mem_map.mp hline
    simp +decide [(isWord_rustField (h.fields _ hfield)).newlines, newlines_rustWireType]
  simp only [rustLines_eq, List.forall_mem_append, List.forall_mem_cons]
  exact ⟨by decide, ⟨by simp +decide [h.name.newlines], hfields⟩, by decide⟩

end Message

section Variants

variable {alternatives : List Alternative}

theorem isEntry_rustVariants (h : ∀ a ∈ alternatives, a.WellNamed) :
    List.Forall₂ rustEnums.IsEntry (rustVariants alternatives)
      (Alternative.rustEntries alternatives) := by
  refine forall₂_map ?_
  intro a ha
  have hread := RustVariant.read?_eq (h a ha).variant (h a ha).message
  simp only [String.append_assoc] at hread ⊢
  exact isEntry_keyed (by decide) (by decide) hread

theorem structs_rustVariants (alternatives : List Alternative) :
    ∀ line ∈ rustVariants alternatives, rustStructs.header? line = none := by
  intro line hline
  obtain ⟨a, -, rfl⟩ := List.mem_map.mp hline
  simp only [String.append_assoc]
  exact header?_of_clash (by decide) _

theorem newlines_rustVariants (h : ∀ a ∈ alternatives, a.WellNamed) :
    ∀ line ∈ rustVariants alternatives, newlines line = 0 := by
  intro line hline
  obtain ⟨a, ha, rfl⟩ := List.mem_map.mp hline
  simp +decide [(h a ha).variant.newlines, (h a ha).message.newlines]

end Variants

/-- What a wire source has between its messages and its envelope. -/
def wireMiddle : List String := [
  "",
  "/// Envelope shipped to collectors, one per decoded event.",
  "#[derive(Clone, Debug, Default, PartialEq, Eq)]"]

/-- The envelope as it is written. -/
def wireEnvelope : List String := [
  "pub struct Metric \x7b",
  "    pub count: u64,",
  "    pub common_event: Option<" ++ Message.commonEvent.name ++ ">,",
  "    pub event: Option<metric::Event>,",
  "\x7d"]

/-- What stands before the variants. -/
def wireModule : List String := [
  "",
  "pub mod metric \x7b",
  "    use super::*;",
  "",
  "    #[derive(Clone, Debug, PartialEq, Eq)]"]

theorem wireLines_eq (syscalls : List (Syscall WireType)) :
    wireLines syscalls =
      banner ++ ((Message.all syscalls).flatMap Message.rustLines ++
        (wireMiddle ++ (wireEnvelope ++ (wireModule ++
          ("    pub enum Event \x7b" :: rustVariants (Alternative.all syscalls) ++ ["    \x7d"] ++
            ["\x7d"]))))) := by
  simp [wireLines, wireMiddle, wireEnvelope, wireModule]

theorem newlines_wireLines (h : WellNamed syscalls) :
    ∀ line ∈ wireLines syscalls, newlines line = 0 := by
  have hmessages : ∀ line ∈ (Message.all syscalls).flatMap Message.rustLines,
      newlines line = 0 :=
    List.forall_mem_flatMap.mpr fun m hm => Message.newlines_rustLines (h.messages m hm)
  simp only [wireLines_eq, List.forall_mem_append, List.forall_mem_cons]
  exact ⟨by decide, hmessages, by decide, by decide, by decide,
    ⟨⟨by decide, newlines_rustVariants h.alternatives⟩, by decide⟩, by decide⟩

/-- **The structs of a wire source**: those of the messages, and the envelope. -/
theorem rustStructs_wireLines (h : WellNamed syscalls) :
    rustStructs.read? (unlines (wireLines syscalls)) =
      some ((Message.all syscalls).map (fun m => ⟨m.name, m.rustEntries⟩) ++
        [⟨"Metric", envelopeMembers⟩]) := by
  refine Grammar.Reads.read? ?_ (newlines_wireLines h) (by decide)
  have hfront : rustStructs.Reads banner [] := Grammar.reads_nil (by decide)
  have hmessages : rustStructs.Reads ((Message.all syscalls).flatMap Message.rustLines)
      ((Message.all syscalls).map fun m => ⟨m.name, m.rustEntries⟩) :=
    Grammar.Reads.flatMap fun m hm => Message.reads_rustLines (h.messages m hm)
  have hmiddle : rustStructs.Reads wireMiddle [] := Grammar.reads_nil (by decide)
  have henvelope : rustStructs.Reads wireEnvelope [⟨"Metric", envelopeMembers⟩] :=
    Grammar.reads_block (g := rustStructs) (by decide)
      (.cons ⟨by decide, by decide, by decide⟩ (.cons ⟨by decide, by decide, by decide⟩
        (.cons ⟨by decide, by decide, by decide⟩ .nil))) (by decide) (by decide)
  have hafter : rustStructs.Reads (wireModule ++
      ("    pub enum Event \x7b" :: rustVariants (Alternative.all syscalls) ++ ["    \x7d"] ++
        ["\x7d"])) [] := by
    refine Grammar.reads_nil ?_
    simp only [List.forall_mem_append, List.forall_mem_cons]
    exact ⟨by decide, ⟨⟨by decide, structs_rustVariants _⟩, by decide⟩, by decide⟩
  have hall := hfront.append (hmessages.append (hmiddle.append (henvelope.append hafter)))
  rw [wireLines_eq]
  simpa using hall

/-- **The variants of a wire source.** -/
theorem rustEnums_wireLines (h : WellNamed syscalls) :
    rustEnums.read? (unlines (wireLines syscalls)) =
      some [⟨"Event", Alternative.rustEntries (Alternative.all syscalls)⟩] := by
  refine Grammar.Reads.read? ?_ (newlines_wireLines h) (by decide)
  have hbefore : rustEnums.Reads (banner ++ ((Message.all syscalls).flatMap Message.rustLines ++
      (wireMiddle ++ (wireEnvelope ++ wireModule)))) [] := by
    refine Grammar.reads_nil ?_
    simp only [List.forall_mem_append]
    have hmessages : ∀ line ∈ (Message.all syscalls).flatMap Message.rustLines,
        rustEnums.header? line = none :=
      List.forall_mem_flatMap.mpr fun m hm => Message.enums_rustLines (h.messages m hm)
    exact ⟨by decide, hmessages, by decide, by decide, by decide⟩
  have hevent : rustEnums.Reads
      ("    pub enum Event \x7b" :: rustVariants (Alternative.all syscalls) ++ ["    \x7d"])
      [⟨"Event", Alternative.rustEntries (Alternative.all syscalls)⟩] :=
    Grammar.reads_block (by decide) (isEntry_rustVariants h.alternatives) (by decide) (by decide)
  have hafter : rustEnums.Reads ["\x7d"] [] := Grammar.reads_nil (by decide)
  have hall := hbefore.append (hevent.append hafter)
  rw [wireLines_eq]
  simpa using hall

end Tracepoint.Artifact
