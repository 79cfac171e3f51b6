import Mathlib
import Tracepoint.Proofs.Schema.Compiled
import Tracepoint.Proofs.Schema.FieldLine

/-!
# What the text of a format says

The declaring lines of a format are those after its first empty line that start with the mark,
white space aside.  A format is rejected for the first of them that is rejected by itself; otherwise
each of them declares one parameter, but for the number of the syscall.

* `Compiled.declaringLines_iff` — which lines are taken for declarations;
* `Field.ofLine_eq_error`, `Field.ofLine_eq_some` — what becomes of one line;
* `Field.ofLines_eq_error`, `Field.ofLines_eq_ok` — what becomes of lines in order;
* `parsing_contract` — what every text is compiled to.
-/

set_option autoImplicit false

namespace Tracepoint

open FieldLine (pattern groups)

/-! ## Lines -/

theorem Text.newline_not_mem_lines {cs line : List Char} (h : line ∈ lines cs) : '\n' ∉ line := by
  fun_induction lines cs generalizing line with
  | case1 => cases h
  | case2 cs ih =>
    rcases List.mem_cons.mp h with rfl | h
    · exact List.not_mem_nil
    · exact ih h
  | case3 cs ih =>
    rcases List.mem_cons.mp h with rfl | h
    · exact List.not_mem_nil
    · exact ih h
  | case4 c cs hnewline _ hlines ih =>
    obtain rfl := List.mem_singleton.mp h
    simpa using fun hc => hnewline hc.symm
  | case5 c cs hnewline _ l ls hlines ih =>
    rcases List.mem_cons.mp h with rfl | h
    · have hl := ih (hlines ▸ List.mem_cons_self)
      simpa [hl] using fun hc => hnewline hc.symm
    · exact ih (hlines ▸ List.mem_cons_of_mem _ h)

namespace Compiled

/-- The lines of a format that declare fields of the syscall. -/
def DeclaringLines (format : String) (declaring : List (List Char)) : Prop :=
  ([] ∉ Text.lines format.toList ∧ declaring = []) ∨
    ∃ header body, Text.lines format.toList = header ++ [] :: body ∧ [] ∉ header ∧
      declaring = body.filter FieldLine.declares

theorem dropWhile_of_not_mem {α : Type} [DecidableEq α] {a : α} {header : List α}
    (h : a ∉ header) (body : List α) :
    (header ++ body).dropWhile (fun x => decide (x ≠ a)) =
      body.dropWhile fun x => decide (x ≠ a) := by
  refine List.dropWhile_append_of_pos fun x hx => decide_eq_true ?_
  rintro rfl
  exact h hx

theorem declaringLines_iff {format : String} {declaring : List (List Char)} :
    DeclaringLines format declaring ↔ declaring = fieldLines format := by
  have hempty : FieldLine.declares [] = false := rfl
  have hsplit : ∀ header body : List (List Char), [] ∉ header →
      ((header ++ [] :: body).dropWhile fun line => decide (line ≠ [])).filter
        FieldLine.declares = body.filter FieldLine.declares := by
    intro header body hheader
    rw [dropWhile_of_not_mem hheader, List.dropWhile_cons_of_neg (by simp),
      List.filter_cons_of_neg (by simp [hempty])]
  have hall : ∀ lines : List (List Char), [] ∉ lines →
      (lines.dropWhile fun line => decide (line ≠ [])).filter FieldLine.declares = [] := by
    intro lines hnone
    have hdrop := dropWhile_of_not_mem hnone []
    rw [List.append_nil] at hdrop
    rw [hdrop]
    rfl
  unfold DeclaringLines fieldLines
  constructor
  · rintro (⟨hnone, rfl⟩ | ⟨header, body, hlines, hheader, rfl⟩)
    · exact (hall _ hnone).symm
    · rw [hlines, hsplit header body hheader]
  · rintro rfl
    by_cases hmem : [] ∈ Text.lines format.toList
    · obtain ⟨header, body, hlines, hheader⟩ := List.eq_append_cons_of_mem hmem
      exact .inr ⟨header, body, hlines, hheader, by rw [hlines, hsplit header body hheader]⟩
    · exact .inl ⟨hmem, hall _ hmem⟩

end Compiled

/-! ## One line -/

/-- No table has a type for the kernel type. -/
def Unmapped (kernelType : String) : Prop :=
  kernelType ∉ decoderTypes.map Prod.fst ∧ kernelType ∉ recordTypes.map Prod.fst

theorem lookup_eq_none_iff {κ α : Type} [BEq κ] [LawfulBEq κ] {k : κ} {pairs : List (κ × α)} :
    pairs.lookup k = none ↔ k ∉ pairs.map Prod.fst := by
  rw [List.lookup_eq_none_iff, List.mem_map]
  simp only [bne_iff_ne, not_exists, not_and, ne_comm (a := k)]

/-- A type that one table lacks, the other lacks too. -/
theorem unmapped_iff {kernelType : String} :
    Unmapped kernelType ↔ decoderType? kernelType = none := by
  have hkeys : recordTypes.map Prod.fst = decoderTypes.map Prod.fst := rfl
  rw [Unmapped, hkeys, and_self, decoderType?, lookup_eq_none_iff]

namespace Field

/-- Why a line of the format of a syscall is rejected. -/
inductive Rejected (syscall : String) (line : List Char) : SchemaError → Prop where
  /-- The pattern does not match it. -/
  | malformed (h : pattern.captures? line = none) :
    Rejected syscall line (.malformedLine syscall (String.ofList line))
  /-- It declares a parameter of a type that the tables do not have.  The first table says so. -/
  | unmapped (type name : List Char) (h : pattern.captures? line = some (groups type name))
    (hname : String.ofList name ≠ syscallNumber) (htype : Unmapped (String.ofList type)) :
    Rejected syscall line
      (.unmappedType .decoder (String.ofList type) syscall (String.ofList name))

/-- The type and the name of the parameter that a line declares; none for the number of the
syscall, or if the pattern does not match. -/
def declared? (line : List Char) : Option (String × String) :=
  match pattern.captures? line with
  | some [(_, type), (_, name)] =>
    if String.ofList name = syscallNumber then none
    else some (String.ofList type, String.ofList name)
  | _ => none

/-- A field of a kernel type that the tables have. -/
def ofType? (kernelType name : String) : Option Field :=
  (decoderType? kernelType).map fun decoder =>
    ⟨name, kernelType, decoder, decoder.recorded, decoder.carried⟩

theorem ofDeclaration_eq (syscall kernelType name : String) :
    ofDeclaration syscall kernelType name =
      match ofType? kernelType name with
      | some field => .ok field
      | none => .error (.unmappedType .decoder kernelType syscall name) := by
  rw [ofDeclaration, ofType?, recordType?_eq]
  cases decoderType? kernelType with
  | none => rfl
  | some decoder => simp [wireType?_eq]

variable {syscall : String} {line : List Char}

theorem captures?_eq_none (hline : '\n' ∉ line) :
    pattern.captures? line = none ↔ FieldLine.split? line = none := by
  rw [FieldLine.captures?_pattern hline, Option.map_eq_none_iff]

theorem captures?_eq_some (hline : '\n' ∉ line) {type name : List Char} :
    pattern.captures? line = some (groups type name) ↔
      FieldLine.split? line = some (type, name) := by
  rw [FieldLine.captures?_pattern hline]
  cases FieldLine.split? line with
  | none => simp
  | some split => simp [groups, Prod.ext_iff]

theorem declared?_of_split {type name : List Char} (hline : '\n' ∉ line)
    (h : FieldLine.split? line = some (type, name)) :
    declared? line = if String.ofList name = syscallNumber then none
      else some (String.ofList type, String.ofList name) := by
  rw [declared?, (captures?_eq_some hline).mpr h]
  rfl

theorem ofLine_eq_error (hline : '\n' ∉ line) {e : SchemaError} :
    ofLine syscall line = .error e ↔ Rejected syscall line e := by
  cases hsplit : FieldLine.split? line with
  | none =>
    have hcaptures := (captures?_eq_none hline).mpr hsplit
    rw [ofLine, hsplit]
    constructor
    · intro h
      cases h
      exact .malformed hcaptures
    · rintro (_ | ⟨type, name, h⟩)
      · rfl
      · rw [hcaptures] at h
        cases h
  | some split =>
    obtain ⟨type, name⟩ := split
    have hcaptures := (captures?_eq_some hline).mpr hsplit
    rw [FieldLine.ofLine_of_split hsplit, ofDeclaration_eq, ofType?]
    constructor
    · intro h
      split_ifs at h with hname
      cases hd : decoderType? (String.ofList type) with
      | some decoder =>
        rw [hd] at h
        cases h
      | none =>
        rw [hd] at h
        cases h
        exact .unmapped type name hcaptures hname (unmapped_iff.mpr hd)
    · rintro (h | ⟨type', name', h, hname, htype⟩)
      · rw [hcaptures] at h
        cases h
      · rw [hcaptures] at h
        cases h
        rw [if_neg hname, unmapped_iff.mp htype]
        rfl

/-- A line that is not rejected declares nothing, or a parameter of a type that the tables have. -/
theorem ofLine_of_not_rejected (hline : '\n' ∉ line) (h : ∀ e, ¬ Rejected syscall line e) :
    (declared? line = none ∧ ofLine syscall line = .ok none) ∨
      ∃ d field, declared? line = some d ∧ ofType? d.1 d.2 = some field ∧
        ofLine syscall line = .ok (some field) := by
  cases hsplit : FieldLine.split? line with
  | none => exact (h _ (.malformed ((captures?_eq_none hline).mpr hsplit))).elim
  | some split =>
    obtain ⟨type, name⟩ := split
    rw [declared?_of_split hline hsplit, FieldLine.ofLine_of_split hsplit, ofDeclaration_eq]
    by_cases hname : String.ofList name = syscallNumber
    · exact .inl ⟨if_pos hname, if_pos hname⟩
    · rw [if_neg hname, if_neg hname]
      cases hfield : ofType? (String.ofList type) (String.ofList name) with
      | some field => exact .inr ⟨_, field, rfl, hfield, rfl⟩
      | none =>
        have htype : Unmapped (String.ofList type) := by
          rw [unmapped_iff]
          simpa [ofType?] using hfield
        exact (h _ (.unmapped type name ((captures?_eq_some hline).mpr hsplit) hname htype)).elim

/-! ## Lines in order -/

/-- The first line that is rejected, and why. -/
def FirstRejected (syscall : String) (lines : List (List Char)) (e : SchemaError) : Prop :=
  ∃ before line after, lines = before ++ line :: after ∧
    (∀ earlier ∈ before, ∀ e', ¬ Rejected syscall earlier e') ∧ Rejected syscall line e

theorem firstRejected_cons {lines : List (List Char)} {e : SchemaError} :
    FirstRejected syscall (line :: lines) e ↔
      Rejected syscall line e ∨
        (∀ e', ¬ Rejected syscall line e') ∧ FirstRejected syscall lines e := by
  constructor
  · rintro ⟨before, found, after, heq, hbefore, hfound⟩
    cases before with
    | nil =>
      obtain ⟨rfl, -⟩ := List.cons.inj heq
      exact .inl hfound
    | cons earlier before =>
      obtain ⟨rfl, rfl⟩ := List.cons.inj heq
      exact .inr ⟨hbefore _ List.mem_cons_self, before, found, after, rfl,
        fun l hl => hbefore l (List.mem_cons_of_mem _ hl), hfound⟩
  · rintro (hfound | ⟨hline, before, found, after, rfl, hbefore, hfound⟩)
    · exact ⟨[], line, lines, rfl, by simp, hfound⟩
    · exact ⟨line :: before, found, after, rfl, List.forall_mem_cons.mpr ⟨hline, hbefore⟩, hfound⟩

variable {lines : List (List Char)}

/-- **The error is that of the first line that is rejected.** -/
theorem ofLines_eq_error (hlines : ∀ line ∈ lines, '\n' ∉ line) {e : SchemaError} :
    ofLines syscall lines = .error e ↔ FirstRejected syscall lines e := by
  induction lines with
  | nil => simp [ofLines, FirstRejected]
  | cons line lines ih =>
    obtain ⟨hline, hlines⟩ := List.forall_mem_cons.mp hlines
    rw [firstRejected_cons, ← ih hlines, ofLines]
    by_cases hrejected : ∃ e', Rejected syscall line e'
    · obtain ⟨e', he'⟩ := hrejected
      have herror := (ofLine_eq_error hline).mpr he'
      have honly : ¬ ∀ e'', ¬ Rejected syscall line e'' := fun h => h e' he'
      rw [herror, ← ofLine_eq_error hline, herror]
      simp [honly]
    · have hnot := not_exists.mp hrejected
      rcases ofLine_of_not_rejected hline hnot with ⟨-, hok⟩ | ⟨d, field, -, -, hok⟩
      · rw [hok]
        simp [hnot]
      · rw [hok]
        cases ofLines syscall lines <;> simp [hnot]

/-- **Lines that are not rejected become the fields that they declare**, in order. -/
theorem ofLines_eq_ok (hlines : ∀ line ∈ lines, '\n' ∉ line) {fields : List Field}
    (h : ofLines syscall lines = .ok fields) :
    List.Forall₂ (fun d field => ofType? d.1 d.2 = some field) (lines.filterMap declared?)
      fields := by
  induction lines generalizing fields with
  | nil =>
    cases h
    exact .nil
  | cons line lines ih =>
    obtain ⟨hline, hlines⟩ := List.forall_mem_cons.mp hlines
    have hnot : ∀ e, ¬ Rejected syscall line e := by
      intro e he
      rw [← ofLine_eq_error hline] at he
      rw [ofLines, he] at h
      cases h
    rcases ofLine_of_not_rejected hline hnot with ⟨hnone, hok⟩ | ⟨d, field, hsome, hfield, hok⟩
    · rw [ofLines, hok] at h
      rw [List.filterMap_cons_none hnone]
      exact ih hlines h
    · rw [ofLines, hok] at h
      cases hrest : ofLines syscall lines with
      | error e =>
        rw [hrest] at h
        cases h
      | ok others =>
        rw [hrest] at h
        cases h
        rw [List.filterMap_cons_some hsome]
        exact .cons hfield (ih hlines hrest)

end Field

/-! ## Formats -/

/-- The parameter at a position for a declared type and name, at its type of one target. -/
def Param.declared {τ : Type} (position : Nat) (kernelType name : String) (ty : τ) : Param τ :=
  { position
    name
    label := Text.camelCase name
    kernelType
    ty
    needsPath := Text.camelCase name = "Fd" || Text.camelCase name = "Dfd" }

/-- The three descriptions of a syscall with the given parameters. -/
structure Compiled.Describes (c : Compiled) (name : String) (parameters : List (String × String)) :
    Prop where
  decoder : c.decoder.name = name ∧ c.decoder.typeName = Text.camelCase name ++ "Event" ∧
    c.decoder.policy = BufferPolicy.ofSyscall name
  record : c.record.name = name ∧ c.record.typeName = Text.camelCase name ++ "Record" ∧
    c.record.policy = BufferPolicy.ofSyscall name
  wire : c.wire.name = name ∧ c.wire.typeName = "Protobuf" ++ Text.camelCase name ++ "Event" ∧
    c.wire.policy = BufferPolicy.ofSyscall name
  lengths : c.decoder.params.length = parameters.length ∧
    c.record.params.length = parameters.length ∧ c.wire.params.length = parameters.length
  /-- At each position stands the parameter declared there, at the types that the tables have. -/
  entries : ∀ (i : Nat) (kernelType field : String), parameters[i]? = some (kernelType, field) →
    ∃ d r w, decoderType? kernelType = some d ∧ recordType? kernelType = some r ∧
      wireType? d = some w ∧
      c.decoder.params[i]? = some (Param.declared i kernelType field d) ∧
      c.record.params[i]? = some (Param.declared i kernelType field r) ∧
      c.wire.params[i]? = some (Param.declared i kernelType field w)

/-- What a format with the given declaring lines is compiled to. -/
structure ParsingContract (name format : String) (declaring : List (List Char)) : Prop where
  /-- Compiling fails exactly if a line is rejected, with the error of the first such line. -/
  fails_iff : ∀ e, Compiled.ofFormat name format = .error e ↔
    Field.FirstRejected name declaring e
  /-- And otherwise yields the descriptions of the parameters that the lines declare. -/
  describes : (∀ e, ¬ Field.FirstRejected name declaring e) →
    ∃ c, Compiled.ofFormat name format = .ok c ∧
      c.Describes name (declaring.filterMap Field.declared?)
  /-- Nothing else in the text matters. -/
  unaffected : ∀ other, Compiled.DeclaringLines other declaring →
    Compiled.ofFormat name other = Compiled.ofFormat name format

namespace Compiled

theorem newline_not_mem_fieldLines (format : String) :
    ∀ line ∈ fieldLines format, '\n' ∉ line := by
  intro line hline
  exact Text.newline_not_mem_lines
    (List.dropWhile_subset _ (List.mem_filter.mp hline).1)

theorem exists_getElem? {α β : Type} {R : α → β → Prop} {as : List α} {bs : List β}
    (h : List.Forall₂ R as bs) {i : Nat} {a : α} (ha : as[i]? = some a) :
    ∃ b, bs[i]? = some b ∧ R a b := by
  induction h generalizing i with
  | nil => simp at ha
  | cons hab _ ih =>
    cases i with
    | zero =>
      cases ha
      exact ⟨_, rfl, hab⟩
    | succ i => exact ih ha

theorem describes_ofFields (name : String) {parameters : List (String × String)}
    {fields : List Field}
    (h : List.Forall₂ (fun d field => Field.ofType? d.1 d.2 = some field) parameters fields) :
    (ofFields name fields).Describes name parameters := by
  have hlength := h.length_eq
  refine ⟨⟨rfl, rfl, rfl⟩, ⟨rfl, rfl, rfl⟩, ⟨rfl, rfl, rfl⟩, ?_, ?_⟩
  · simp [ofFields, Field.params, hlength]
  · intro i kernelType name hi
    obtain ⟨field, hfield, htypes⟩ := exists_getElem? h hi
    obtain ⟨d, hd, rfl⟩ := Option.map_eq_some_iff.mp htypes
    refine ⟨d, d.recorded, d.carried, hd, ?_, wireType?_eq d, ?_⟩
    · rw [recordType?_eq, hd, Option.map_some]
    · simp only [ofFields, Field.getElem?_params, hfield, Option.map_some]
      exact ⟨rfl, rfl, rfl⟩

theorem ofFormat_eq_error {name format : String} {e : SchemaError} :
    ofFormat name format = .error e ↔ Field.ofLines name (fieldLines format) = .error e := by
  rw [ofFormat]
  cases Field.ofLines name (fieldLines format) <;> simp

end Compiled

/-- **A text is compiled to what its declaring lines say**: to the error of the first line that is
rejected, or to three descriptions of the parameters in order. -/
theorem parsing_contract (name format : String) :
    (∃ declaring, Compiled.DeclaringLines format declaring) ∧
      ∀ declaring, Compiled.DeclaringLines format declaring →
        ParsingContract name format declaring := by
  refine ⟨⟨_, Compiled.declaringLines_iff.mpr rfl⟩, ?_⟩
  intro declaring hdeclaring
  obtain rfl := Compiled.declaringLines_iff.mp hdeclaring
  have hlines := Compiled.newline_not_mem_fieldLines format
  have hfails : ∀ e, Compiled.ofFormat name format = .error e ↔
      Field.FirstRejected name (Compiled.fieldLines format) e := by
    intro e
    rw [Compiled.ofFormat_eq_error, Field.ofLines_eq_error hlines]
  refine ⟨hfails, ?_, ?_⟩
  · intro hnone
    cases hfields : Field.ofLines name (Compiled.fieldLines format) with
    | error e => exact (hnone e ((Field.ofLines_eq_error hlines).mp hfields)).elim
    | ok fields =>
      refine ⟨_, ?_, Compiled.describes_ofFields name (Field.ofLines_eq_ok hlines hfields)⟩
      rw [Compiled.ofFormat, hfields]
  · intro other hother
    rw [Compiled.ofFormat, Compiled.ofFormat, ← Compiled.declaringLines_iff.mp hother]

/-- A format with declarations before the first empty line and after the second, and a line between
them that ends with a carriage return. -/
def scatteredFormat : String :=
  "name: sys_enter_read\n\tfield:int common_pid;\n\n\tfield:int __syscall_nr;\toffset:8;\r\n" ++
    "print fmt: fd\n\u2003field:unsigned int fd;\toffset:16;\n\n\tfield:char * buf;"

/-- The number of the syscall is declared and is no parameter. -/
theorem parsing_scatteredFormat :
    let declaring := ["\tfield:int __syscall_nr;\toffset:8;".toList,
      "\u2003field:unsigned int fd;\toffset:16;".toList, "\tfield:char * buf;".toList]
    Compiled.DeclaringLines scatteredFormat declaring ∧
      ParsingContract "read" scatteredFormat declaring ∧
      declaring.filterMap Field.declared? = [("unsigned int", "fd"), ("char *", "buf")] := by
  intro declaring
  have hdeclaring : Compiled.DeclaringLines scatteredFormat declaring :=
    Compiled.declaringLines_iff.mpr (by decide +kernel)
  exact ⟨hdeclaring, (parsing_contract "read" scatteredFormat).2 declaring hdeclaring,
    by decide +kernel⟩

end Tracepoint
