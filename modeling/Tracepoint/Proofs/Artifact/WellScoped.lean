import Mathlib
import Tracepoint.Proofs.Artifact.FieldNames
import Tracepoint.Proofs.Artifact.Placeholders

/-!
# Well scoped decoders

The functions of a decoder use fields that its struct has, and arguments by the names that they
have there.  What is used and what is declared is decided in several places, each by a condition of
its own.  For parameters with regular names it all comes down to two of them: what a close drops is
one of its parameters, and no descriptor is a buffer.

* `DecoderText.FieldsDeclared`, `ArgumentsBound`, `CastsIntegers`, `TemplateFits` — what it means
  to be well scoped;
* `forall_uses_iff` — only the decoding function has to be looked at;
* `fieldsDeclared_iff`, `argumentsBound_iff`, `castsIntegers_iff`, `templateFits_iff` — when a
  decoder is.
-/

set_option autoImplicit false

namespace Tracepoint.Artifact

/-! ## What it means to be well scoped -/

/-- The types of integers. -/
def integerTypes : List String := ["i32", "u32", "i64", "u64"]

/-- Whether a field is what a placeholder is for: the label is that of the field, and the type of
the field is one that is displayed so. -/
def Placeholder.IsFor (field : RustField) : Placeholder → Prop
  | .quoted label =>
    Text.camelCase (unescaped field.name) = label ∧ field.type = "[u8; MAX_BUFFER_SIZE]"
  | .plain label => Text.camelCase (unescaped field.name) = label ∧ field.type ∈ integerTypes
  | .path label => Text.camelCase field.name = label ++ "Path" ∧ field.type = "String"

/-- The parts that an expression takes of the event that is shown. -/
def partsOfSelf (value : List Token) : List String :=
  (uses value).filterMap fun u => if u.name = "self" then u.part? else none

theorem partsOfSelf_shown (s : Shown) : partsOfSelf s.tokens = [s.field] := by
  match s with
  | .plain _ => cbv
  | .terminated _ => cbv
  | .bounded _ => cbv

namespace DecoderText

variable (text : DecoderText)

/-- Every field that is taken of an event is one of its struct. -/
def FieldsDeclared : Prop :=
  ∀ f ∈ text.functions, ∀ u ∈ uses f.body, u.name ∈ eventNames →
    ∀ part, u.part? = some part → part ∈ text.fieldNames

/-- Every argument that a function uses it has by that name. -/
def ArgumentsBound : Prop :=
  ∀ f ∈ text.functions, ∀ u ∈ uses f.body, u.name ∈ argumentNames → u.name ∈ binders f.signature

/-- Every field that is turned into a number of 32 bits is an integer. -/
def CastsIntegers : Prop :=
  ∀ f ∈ text.functions, ∀ u ∈ uses f.body, u.name ∈ eventNames → u.cast? = some "u32" →
    ∀ field ∈ text.fields, u.part? = some field.name → field.type ∈ integerTypes

/-- A value shows one field, the one that its placeholder is for. -/
def Shows (placeholder : Placeholder) (value : List Token) : Prop :=
  ∃ field ∈ text.fields, placeholder.IsFor field ∧ partsOfSelf value = [field.name]

/-- The template has one placeholder for each value, in the same order. -/
def TemplateFits : Prop :=
  ∃ f ∈ text.functions, f.name? = some (.word "render") ∧
    ∃ template values placeholders, formatCall? f.body = some (template, values) ∧
      placeholders? template = some placeholders ∧ List.Forall₂ text.Shows placeholders values

/-- A decoder that is well scoped. -/
structure WellScoped : Prop where
  fields : text.FieldsDeclared
  arguments : text.ArgumentsBound
  casts : text.CastsIntegers
  template : text.TemplateFits

end DecoderText

/-! ## Decoders of regular parameters -/

open DecoderTree

/-- A parameter that is named by the characters of names and that is a descriptor if its label
says so. -/
structure Regular (p : Param DecoderType) : Prop where
  name : FieldLine.IsName p.name.toList
  label : p.label = Text.camelCase p.name
  needsPath : p.needsPath = Field.isDescriptorLabel (Text.camelCase p.name)

theorem isName_of_isName {name : String} (h : FieldLine.IsName name.toList) : IsName name :=
  ⟨isWord_of_isName h, fun heq => h.nonempty (String.toList_eq_nil_iff.mpr heq)⟩

theorem isName_rustField {name : String} (h : FieldLine.IsName name.toList) :
    IsName (rustField name) := by
  refine ⟨isWord_rustField (isWord_of_isName h), ?_⟩
  unfold rustField
  split
  · exact fun heq => absurd (String.append_eq_empty_iff.mp heq).1 (by decide)
  · exact (isName_of_isName h).ne

/-- Whatever a parameter is shown as, its own field is. -/
theorem field_shown (policy : BufferPolicy) (p : Param DecoderType) :
    (shown policy p).field = rustField p.name := by
  unfold shown
  split
  · cases policy <;> rfl
  · rfl

theorem isName_shown {p : Param DecoderType} (h : FieldLine.IsName p.name.toList)
    (policy : BufferPolicy) : IsName (shown policy p).field := by
  rw [field_shown]
  exact isName_rustField h

/-- A decoded syscall with regular parameters, and with words for the types of its source. -/
structure RegularSyscall (d : Syscall DecoderType) (message : String) : Prop where
  params : ∀ p ∈ d.params, Regular p
  typeName : IsName d.typeName ∧ d.typeName ∉ argumentNames
  message : IsName message ∧ message ∉ argumentNames

namespace RegularSyscall

variable {d : Syscall DecoderType} {message : String}

theorem named (h : RegularSyscall d message) (r : Syscall RecordType) :
    (ofSyscall d r message).Named where
  typeName := h.typeName
  message := h.message
  initials := by
    intro initial hinitial
    obtain ⟨p, hp, hname | hname⟩ := exists_param_initial hinitial
    · exact hname ▸ isName_rustField (h.params p hp).name
    · exact hname ▸ isName_of_isName (isName_pathField (h.params p hp).name)
  resolutions := by
    intro s hs
    obtain ⟨p, hp, rfl⟩ := List.mem_map.mp hs
    have hname := (h.params p (List.mem_filter.mp hp).1).name
    exact ⟨isName_of_isName (isName_pathField hname), isName_rustField hname⟩
  forgets := by
    intro s hs
    rw [eq_forget_of_mem hs]
    exact ⟨by decide, by decide⟩
  labels := by
    intro argument hargument
    obtain ⟨p, hp, rfl⟩ := List.mem_map.mp hargument
    show IsWord p.label
    rw [(h.params p hp).label]
    exact isWord_camelCase _
  values := by
    intro v hv
    obtain ⟨p, hp, hv⟩ := List.mem_flatMap.mp hv
    have hname := (h.params p hp).name
    refine forall_mem_withPath (P := fun v : TemplateValue => IsName v.field) ?_ ?_ v hv
    · exact isName_shown hname d.policy
    · exact isName_of_isName (isName_pathField hname)
  arms := by
    intro arm harm
    obtain ⟨p, hp, rfl⟩ := List.mem_map.mp harm
    exact isName_shown (h.params p hp).name d.policy
  entries := by
    intro e he
    obtain ⟨p, hp, rfl⟩ := List.mem_map.mp he
    have hname := (h.params p hp).name
    have hshown := isName_shown hname d.policy
    unfold paramEntry
    cases display p with
    | quoted => exact ⟨isWord_of_isName hname, hshown⟩
    | withPath =>
      exact ⟨isWord_of_isName hname, hshown, isName_of_isName (isName_pathField hname)⟩
    | plain => exact ⟨isWord_of_isName hname, hshown⟩
  exports := by
    intro e he
    obtain ⟨p, hp, rfl⟩ := List.mem_map.mp he
    rw [paramExport_field]
    exact isName_rustField (h.params p hp).name

end RegularSyscall

/-! ## The four parts -/

/-- What is asked of the uses of all functions is asked of those that matter. -/
theorem DecoderTree.forall_uses_iff {t : DecoderTree} (h : t.Named)
    {P : List String → Use → Prop} (hP : ∀ bound u, u.isRelevant = false → P bound u) :
    (∀ f ∈ t.text.functions, ∀ u ∈ uses f.body, P (binders f.signature) u) ↔
      ∀ a ∈ t.accounts, ∀ u ∈ a.uses, P a.bound u := by
  rw [← accounts_text h, List.forall_mem_map]
  refine forall₂_congr fun f _ => ?_
  constructor
  · exact fun hall u hu => hall u (List.mem_filter.mp hu).1
  · intro hall u hu
    cases hrelevant : u.isRelevant with
    | true => exact hall u (List.mem_filter.mpr ⟨hu, hrelevant⟩)
    | false => exact hP _ u hrelevant

section Parts

variable {d : Syscall DecoderType} {r : Syscall RecordType} {message : String}

theorem mem_fields {field : RustField} : field ∈ (ofSyscall d r message).text.fields ↔
    ∃ p ∈ d.params, field = ⟨rustField p.name, (FieldType.value p.ty).rust⟩ ∨
      (p.needsPath = true ∧ field = ⟨pathField p.name, FieldType.path.rust⟩) := by
  show field ∈ (d.params.flatMap paramFields).map _ ↔ _
  rw [List.map_flatMap, List.mem_flatMap]
  refine exists_congr fun p => and_congr_right fun _ => ?_
  unfold paramFields
  cases p.needsPath <;> simp

theorem mem_fieldNames {name : String} : name ∈ (ofSyscall d r message).text.fieldNames ↔
    ∃ p ∈ d.params, name = rustField p.name ∨ (p.needsPath = true ∧ name = pathField p.name) := by
  rw [DecoderText.fieldNames, List.mem_map]
  constructor
  · rintro ⟨field, hfield, rfl⟩
    obtain ⟨p, hp, rfl | ⟨hpath, rfl⟩⟩ := mem_fields.mp hfield
    · exact ⟨p, hp, .inl rfl⟩
    · exact ⟨p, hp, .inr ⟨hpath, rfl⟩⟩
  · rintro ⟨p, hp, rfl | ⟨hpath, rfl⟩⟩
    · exact ⟨_, mem_fields.mpr ⟨p, hp, .inl rfl⟩, rfl⟩
    · exact ⟨_, mem_fields.mpr ⟨p, hp, .inr ⟨hpath, rfl⟩⟩, rfl⟩

/-- The fields that are used where a parameter is shown are its own. -/
theorem mem_uses_shown {policy : BufferPolicy} {p : Param DecoderType} {u : Use}
    (h : u ∈ (shown policy p).uses) : u = .ofSelf (rustField p.name) ∨
      (u = ⟨"ret", none, none⟩ ∧ policy = .returnBounded ∧ p.ty.isBuffer = true) := by
  unfold shown at h
  split at h
  · rename_i hbuffer
    cases policy with
    | nulTerminated => exact .inl (List.mem_singleton.mp h)
    | returnBounded =>
      rcases List.mem_cons.mp h with h | h
      · exact .inl h
      · exact .inr ⟨List.mem_singleton.mp h, rfl, hbuffer⟩
  · exact .inl (List.mem_singleton.mp h)

/-- A use of a field or of the return value where a parameter is shown. -/
inductive ShownUse (d : Syscall DecoderType) : Use → Prop where
  | field {p : Param DecoderType} (h : p ∈ d.params) : ShownUse d (.ofSelf (rustField p.name))
  | path {p : Param DecoderType} (h : p ∈ d.params) (hpath : p.needsPath = true) :
    ShownUse d (.ofSelf (pathField p.name))
  | ret (h : boundsBuffers d = true) : ShownUse d ⟨"ret", none, none⟩

theorem shownUse_shown {p : Param DecoderType} (hp : p ∈ d.params) {u : Use}
    (h : u ∈ (shown d.policy p).uses) : ShownUse d u := by
  rcases mem_uses_shown h with rfl | ⟨rfl, hpolicy, hbuffer⟩
  · exact .field hp
  · refine .ret ?_
    rw [boundsBuffers, hpolicy, List.any_eq_true.mpr ⟨p, hp, hbuffer⟩]
    rfl

theorem shownUse_value {p : Param DecoderType} (hp : p ∈ d.params) {v : TemplateValue}
    (hv : v ∈ paramValues d.policy p) {u : Use} (h : u ∈ v.uses) : ShownUse d u := by
  unfold paramValues at hv
  rcases List.mem_cons.mp hv with rfl | hv
  · exact shownUse_shown hp h
  · split at hv
    · rename_i hpath
      rw [List.mem_singleton.mp hv] at h
      rw [List.mem_singleton.mp h]
      exact .path hp hpath
    · cases hv

theorem shownUse_entry {p : Param DecoderType} (hp : p ∈ d.params) {u : Use}
    (h : u ∈ (paramEntry d.policy p).uses) : ShownUse d u := by
  unfold paramEntry display at h
  split at h
  · exact shownUse_shown hp h
  · rename_i hdisplay
    have hpath : p.needsPath = true := by
      by_contra hnot
      rw [if_neg hnot] at hdisplay
      split at hdisplay <;> cases hdisplay
    rcases List.mem_append.mp h with h | h
    · exact shownUse_shown hp h
    · rw [List.mem_singleton.mp h]
      exact .path hp hpath
  · exact shownUse_shown hp h

theorem self_not_argument : "self" ∉ argumentNames := by
  decide

/-- The arguments of the decoding function. -/
def decodeBound (d : Syscall DecoderType) : List String :=
  [binder (resolvesPaths d) "header", "payload",
    binder (resolvesPaths d || forgetsDescriptor d) "ctx"]

theorem mem_decodeBound_header : "header" ∈ decodeBound d ↔ resolvesPaths d = true := by
  unfold decodeBound
  cases resolvesPaths d <;> cases forgetsDescriptor d <;> decide

/-- A statement uses no return value. -/
theorem statement_uses {s : Statement} {u : Use} (h : u ∈ s.uses) : u.name ≠ "ret" := by
  have hall : ∀ u ∈ s.uses, u.name ≠ "ret" := by
    cases s <;> simp [Statement.uses]
  exact hall u h

/-- Where paths are looked up, no argument is marked. -/
theorem mem_decodeBound (h : resolvesPaths d = true) {name : String} (hname : name ∈ argumentNames)
    (hret : name ≠ "ret") : name ∈ decodeBound d := by
  simp only [argumentNames, List.mem_cons, List.not_mem_nil, or_false] at hname
  rcases hname with rfl | rfl | rfl
  · exact mem_decodeBound_header.mpr h
  · simp [decodeBound, h, binder]
  · exact absurd rfl hret

theorem rust_eq_array {ty : DecoderType} :
    (FieldType.value ty).rust = "[u8; MAX_BUFFER_SIZE]" ↔ ty.isBuffer = true := by
  cases ty <;> decide

/-- The type of a field is one of integers unless the field is a buffer. -/
theorem rust_mem_integerTypes {ty : DecoderType} :
    (FieldType.value ty).rust ∈ integerTypes ↔ ty.isBuffer = false := by
  cases ty <;> decide

/-- The field with the descriptor that a statement is about. -/
def Statement.descriptor : Statement → String
  | .resolve _ field => field
  | .forget field => field

/-- Only the descriptor is turned into a number. -/
theorem part_of_cast {s : Statement} {u : Use} (h : u ∈ s.uses) (hname : u.name ∈ eventNames)
    (hcast : u.cast? = some "u32") : u.part? = some s.descriptor := by
  have hall : ∀ u ∈ s.uses, u.name ∈ eventNames → u.cast? = some "u32" →
      u.part? = some s.descriptor := by
    cases s <;> simp [Statement.uses, Statement.descriptor, eventNames]
  exact hall u h hname hcast

/-- What the functions of a decoder use, parameter by parameter. -/
theorem forall_accounts {P : List String → Use → Prop} :
    (∀ a ∈ (ofSyscall d r message).accounts, ∀ u ∈ a.uses, P a.bound u) ↔
      (∀ p ∈ d.params, p.needsPath = true →
        ∀ u ∈ (Statement.resolve (pathField p.name) (rustField p.name)).uses,
          P (decodeBound d) u) ∧
      (forgetsDescriptor d = true → ∀ u ∈ (Statement.forget "fd").uses, P (decodeBound d) u) ∧
      (∀ p ∈ d.params, ∀ v ∈ paramValues d.policy p, ∀ u ∈ v.uses,
        P [binder (boundsBuffers d) "ret"] u) ∧
      (∀ p ∈ d.params, ∀ u ∈ (shown d.policy p).uses, P ["n", binder (boundsBuffers d) "ret"] u) ∧
      (∀ p ∈ d.params, ∀ u ∈ (paramEntry d.policy p).uses, P [binder (boundsBuffers d) "ret"] u) ∧
      ∀ p ∈ d.params, P [] (.ofSelf (rustField p.name)) := by
  have hforgets {Q : Statement → Prop} :
      (∀ s ∈ if forgetsDescriptor d = true then [Statement.forget "fd"] else [], Q s) ↔
        (forgetsDescriptor d = true → Q (.forget "fd")) := by
    cases forgetsDescriptor d <;> simp
  have hfilter {Q : Param DecoderType → Prop} : (∀ p ∈ d.params.filter Param.needsPath, Q p) ↔
      ∀ p ∈ d.params, p.needsPath = true → Q p := by
    simp
  simp only [DecoderTree.accounts, ofSyscall, decodeBound, List.forall_mem_cons,
    List.forall_mem_append, hforgets, List.forall_mem_flatMap, List.forall_mem_map, hfilter,
    paramExport_field, List.not_mem_nil, false_imp_iff, implies_true, and_true, and_assoc]

/-- The call that is looked at is that of the function that shows all of an event. -/
theorem templateFits_text {t : DecoderTree} (h : t.Named) : t.text.TemplateFits ↔
    List.Forall₂ t.text.Shows (templateSlots t.template) (t.values.map TemplateValue.tokens) := by
  have hcall := formatCall?_renderBody h
  have hslots := placeholders?_templateText h.labels
  have hrender : (⟨renderFront t.usesReturn, bodyTokens t.renderBody⟩ : FunctionText) ∈
      t.text.functions := by
    rw [functions_text]
    simp
  constructor
  · rintro ⟨f, hf, hname, template, values, placeholders, hf', hplaceholders, hshows⟩
    have hbody : f.body = bodyTokens t.renderBody := by
      have hmem := List.mem_map_of_mem (f := fun f => (f.name?, f.body)) hf
      rw [functions_names, hname] at hmem
      simpa using hmem
    rw [hbody, hcall] at hf'
    cases hf'
    rw [hslots] at hplaceholders
    cases hplaceholders
    exact hshows
  · intro hshows
    exact ⟨_, hrender, rfl, _, _, _, hcall, hslots, hshows⟩

/-- No parameter has more placeholders than values; one has fewer if it is a descriptor and a
buffer. -/
theorem length_slots (policy : BufferPolicy) (p : Param DecoderType) :
    ((display p).slots p.label).length ≤ (paramValues policy p).length ∧
      (((display p).slots p.label).length = (paramValues policy p).length ↔
        ¬ (p.needsPath = true ∧ p.ty.isBuffer = true)) := by
  unfold display paramValues
  cases p.needsPath <;> cases p.ty.isBuffer <;> simp [Display.slots]

/-- The placeholders of a parameter are for its values. -/
theorem shows_param {p : Param DecoderType} (hp : p ∈ d.params) (hregular : Regular p)
    (hbuffer : p.needsPath = true → p.ty.isBuffer = false) :
    List.Forall₂ (ofSyscall d r message).text.Shows ((display p).slots p.label)
      ((paramValues d.policy p).map TemplateValue.tokens) := by
  have hname := unescaped_rustField hregular.name
  have hvalue {placeholder : Placeholder} (hfor : placeholder.IsFor
      ⟨rustField p.name, (FieldType.value p.ty).rust⟩) :
      (ofSyscall d r message).text.Shows placeholder (shown d.policy p).tokens := by
    refine ⟨_, mem_fields.mpr ⟨p, hp, .inl rfl⟩, hfor, ?_⟩
    rw [partsOfSelf_shown, field_shown]
  have hpathFor : (Placeholder.path p.label).IsFor ⟨pathField p.name, FieldType.path.rust⟩ := by
    exact ⟨by rw [camelCase_pathField, hregular.label], rfl⟩
  unfold display paramValues
  cases htype : p.ty.isBuffer with
  | true =>
    have hpath : p.needsPath = false := by
      by_contra hpath
      rw [hbuffer (Bool.not_eq_false _ ▸ hpath)] at htype
      cases htype
    rw [hpath]
    have hfor : (Placeholder.quoted p.label).IsFor
        ⟨rustField p.name, (FieldType.value p.ty).rust⟩ := by
      exact ⟨by rw [hname, hregular.label], rust_eq_array.mpr htype⟩
    exact .cons (hvalue hfor) .nil
  | false =>
    have hfor : (Placeholder.plain p.label).IsFor
        ⟨rustField p.name, (FieldType.value p.ty).rust⟩ :=
      ⟨by rw [hname, hregular.label], rust_mem_integerTypes.mpr htype⟩
    cases hpath : p.needsPath with
    | true =>
      refine .cons (hvalue hfor) (.cons ?_ .nil)
      exact ⟨_, mem_fields.mpr ⟨p, hp, .inr ⟨hpath, rfl⟩⟩, hpathFor, partsOfSelf_shown (.plain _)⟩
    | false => exact .cons (hvalue hfor) .nil

theorem isName_fd : FieldLine.IsName "fd".toList :=
  ⟨by decide, List.all_eq_true.mp (by decide)⟩

variable (h : RegularSyscall d message)

include h

/-- What holds of all that is shown is asked of the decoding function only. -/
theorem forall_uses_iff {P : List String → Use → Prop}
    (hP : ∀ bound u, u.isRelevant = false → P bound u)
    (hshown : ∀ bound u, ShownUse d u → (u.name ∈ argumentNames → u.name ∈ bound) → P bound u) :
    (∀ f ∈ (ofSyscall d r message).text.functions, ∀ u ∈ uses f.body, P (binders f.signature) u) ↔
      (∀ p ∈ d.params, p.needsPath = true →
        ∀ u ∈ (Statement.resolve (pathField p.name) (rustField p.name)).uses,
          P (decodeBound d) u) ∧
      (forgetsDescriptor d = true → ∀ u ∈ (Statement.forget "fd").uses, P (decodeBound d) u) := by
  have hbound {bound : List String} (hret : binder (boundsBuffers d) "ret" ∈ bound) {u : Use}
      (hu : ShownUse d u) : P bound u := by
    refine hshown bound u hu ?_
    cases hu with
    | field hp => exact fun hname => absurd hname self_not_argument
    | path hp hpath => exact fun hname => absurd hname self_not_argument
    | ret hbounds =>
      rw [hbounds] at hret
      exact fun _ => hret
  rw [DecoderTree.forall_uses_iff (h.named r) hP, forall_accounts]
  constructor
  · rintro ⟨hresolve, hforget, -⟩
    exact ⟨hresolve, hforget⟩
  · rintro ⟨hresolve, hforget⟩
    refine ⟨hresolve, hforget, ?_, ?_, ?_, ?_⟩
    · exact fun p hp v hv u hu => hbound (by simp) (shownUse_value hp hv hu)
    · exact fun p hp u hu => hbound (by simp) (shownUse_shown hp hu)
    · exact fun p hp u hu => hbound (by simp) (shownUse_entry hp hu)
    · exact fun p hp => hshown _ _ (.field hp) fun hname => absurd hname self_not_argument

/-- No path is named like the field that a close drops. -/
theorem mem_fieldNames_fd : "fd" ∈ (ofSyscall d r message).text.fieldNames ↔
    ∃ p ∈ d.params, p.name = "fd" := by
  rw [mem_fieldNames]
  refine exists_congr fun p => and_congr_right fun hp => ?_
  have hname := (h.params p hp).name
  constructor
  · rintro (hfield | ⟨-, hpath⟩)
    · exact (rustField_inj hname isName_fd).mp (rustField_fd.trans hfield).symm
    · have hlabel := congrArg (fun s => Field.isDescriptorLabel (Text.camelCase s)) hpath
      rw [isDescriptorLabel_pathField] at hlabel
      exact absurd hlabel (by decide)
  · intro heq
    rw [heq, rustField_fd]
    exact .inl rfl

/-- **The fields that are taken of an event are those of its struct**, unless a close has no
`fd`. -/
theorem fieldsDeclared_iff : (ofSyscall d r message).text.FieldsDeclared ↔
    (forgetsDescriptor d = true → ∃ p ∈ d.params, p.name = "fd") := by
  let names := (ofSyscall d r message).text.fieldNames
  have hself (field : String) (hfield : field ∈ names) (part : String)
      (hpart : (Use.ofSelf field).part? = some part) : part ∈ names := by
    cases hpart
    exact hfield
  rw [DecoderText.FieldsDeclared, forall_uses_iff h (P := fun _ u => u.name ∈ eventNames →
    ∀ part, u.part? = some part → part ∈ names)]
  · rw [← mem_fieldNames_fd h (r := r)]
    have hresolve : ∀ p ∈ d.params, p.needsPath = true →
        pathField p.name ∈ names ∧ rustField p.name ∈ names := fun p hp hpath =>
      ⟨mem_fieldNames.mpr ⟨p, hp, .inr ⟨hpath, rfl⟩⟩, mem_fieldNames.mpr ⟨p, hp, .inl rfl⟩⟩
    simp +contextual [Statement.uses, eventNames, hresolve, names]
  · intro bound u hu hname part hpart
    simp [Use.isRelevant, hname, hpart] at hu
  · intro bound u hu _ hname
    cases hu with
    | field hp => exact hself _ (mem_fieldNames.mpr ⟨_, hp, .inl rfl⟩)
    | path hp hpath => exact hself _ (mem_fieldNames.mpr ⟨_, hp, .inr ⟨hpath, rfl⟩⟩)
    | ret _ => exact absurd hname (by decide)

/-- **Every argument that is used is there by its name**, unless a close has no descriptor. -/
theorem argumentsBound_iff : (ofSyscall d r message).text.ArgumentsBound ↔
    (forgetsDescriptor d = true → resolvesPaths d = true) := by
  rw [DecoderText.ArgumentsBound, forall_uses_iff h (P := fun bound u =>
    u.name ∈ argumentNames → u.name ∈ bound)]
  · constructor
    · intro hdecode hforgets
      exact mem_decodeBound_header.mp (hdecode.2 hforgets ⟨"header", some "pid", some "u32"⟩
        (by simp [Statement.uses]) (by decide))
    · intro hresolves
      constructor
      · intro p hp hpath u hu hname
        exact mem_decodeBound (List.any_eq_true.mpr ⟨p, hp, hpath⟩) hname (statement_uses hu)
      · intro hforgets u hu hname
        exact mem_decodeBound (hresolves hforgets) hname (statement_uses hu)
  · intro bound u hu hname
    simp [Use.isRelevant, hname] at hu
  · exact fun bound u _ hname => hname

/-- A field that is named like a descriptor is the value of one. -/
theorem exists_descriptor {field : RustField} (hfield : field ∈ (ofSyscall d r message).text.fields)
    {name : String} (hname : FieldLine.IsName name.toList)
    (hdescriptor : Field.isDescriptorLabel (Text.camelCase name) = true)
    (heq : rustField name = field.name) :
    ∃ p ∈ d.params, p.needsPath = true ∧ field.type = (FieldType.value p.ty).rust := by
  obtain ⟨p, hp, rfl | ⟨-, rfl⟩⟩ := mem_fields.mp hfield
  · have hp' := h.params p hp
    refine ⟨p, hp, ?_, rfl⟩
    rw [hp'.needsPath, ← (rustField_inj hname hp'.name).mp heq]
    exact hdescriptor
  · rw [← rustField_pathField] at heq
    rw [(rustField_inj hname (isName_pathField (h.params p hp).name)).mp heq,
      isDescriptorLabel_pathField] at hdescriptor
    cases hdescriptor

/-- **Every field that is turned into a number is an integer**, unless a descriptor is a
buffer. -/
theorem castsIntegers_iff : (ofSyscall d r message).text.CastsIntegers ↔
    ∀ p ∈ d.params, p.needsPath = true → p.ty.isBuffer = false := by
  let fields := (ofSyscall d r message).text.fields
  rw [DecoderText.CastsIntegers, forall_uses_iff h (P := fun _ u => u.name ∈ eventNames →
    u.cast? = some "u32" → ∀ field ∈ fields, u.part? = some field.name → field.type ∈ integerTypes)]
  · constructor
    · intro hdecode p hp hpath
      exact rust_mem_integerTypes.mp (hdecode.1 p hp hpath
        ⟨"event", some (rustField p.name), some "u32"⟩ (by simp [Statement.uses])
        List.mem_cons_self rfl _ (mem_fields.mpr ⟨p, hp, .inl rfl⟩) rfl)
    · intro hall
      have hinteger {name : String} (hname : FieldLine.IsName name.toList)
          (hdescriptor : Field.isDescriptorLabel (Text.camelCase name) = true) {field : RustField}
          (hfield : field ∈ fields) (heq : rustField name = field.name) :
          field.type ∈ integerTypes := by
        obtain ⟨p, hp, hpath, htype⟩ := exists_descriptor h hfield hname hdescriptor heq
        rw [htype]
        exact rust_mem_integerTypes.mpr (hall p hp hpath)
      constructor
      · intro p hp hpath u hu hevent hcast field hfield hpart
        have hp' := h.params p hp
        refine hinteger hp'.name (hp'.needsPath ▸ hpath) hfield (Option.some.inj ?_)
        rw [← hpart, part_of_cast hu hevent hcast]
        rfl
      · intro hforgets u hu hevent hcast field hfield hpart
        refine hinteger isName_fd (by decide) hfield (Option.some.inj ?_)
        rw [← hpart, part_of_cast hu hevent hcast]
        rfl
  · intro bound u hu hname _ field _ hpart
    simp [Use.isRelevant, hname, hpart] at hu
  · intro bound u hu _ _ hcast
    cases hu <;> cases hcast

/-- **The placeholders of the template are for its values**, unless a descriptor is a buffer. -/
theorem templateFits_iff : (ofSyscall d r message).text.TemplateFits ↔
    ∀ p ∈ d.params, p.needsPath = true → p.ty.isBuffer = false := by
  have hslots : templateSlots (ofSyscall d r message).template =
      d.params.flatMap fun p => (display p).slots p.label := List.flatMap_map ..
  have hvalues : (ofSyscall d r message).values.map TemplateValue.tokens =
      d.params.flatMap fun p => (paramValues d.policy p).map TemplateValue.tokens :=
    List.map_flatMap ..
  rw [templateFits_text (h.named r), hslots, hvalues]
  constructor
  · intro hshows p hp hpath
    have hlength := hshows.length_eq
    by_contra hbuffer
    have hle := fun q (_ : q ∈ d.params) => (length_slots d.policy q).1
    have hlt : ((display p).slots p.label).length < (paramValues d.policy p).length := by
      refine lt_of_le_of_ne (hle p hp) fun heq => ?_
      exact (length_slots d.policy p).2.mp heq ⟨hpath, Bool.not_eq_false _ ▸ hbuffer⟩
    have hsum := List.sum_lt_sum _ _ hle ⟨p, hp, hlt⟩
    simp only [List.length_flatMap, List.length_map] at hlength
    exact absurd hlength hsum.ne
  · intro hall
    exact forall₂_flatMap fun p hp => shows_param hp (h.params p hp) (hall p hp)

end Parts

end Tracepoint.Artifact
