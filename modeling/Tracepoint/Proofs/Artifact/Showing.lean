import Mathlib
import Tracepoint.Proofs.Artifact.LockStep
import Tracepoint.Proofs.Artifact.Words
import Tracepoint.Proofs.Event.Arguments

/-!
# What generated decoders show

The source of a decoder shows an event by three functions that are spelled out apart from each
other: a template with a list of values, a choice among positions, and a list of arguments.  Run on
the struct of a decoded syscall, they give the three views of it.

* `expand` — the text of a template, filled in placeholder by placeholder;
* `DecoderTree.render?`, `DecoderTree.arg?`, `DecoderTree.args?` — what the three functions give;
* `SyscallEvent.Decoded.shows_ofSyscall` — they give what the decoded syscall shows.
-/

set_option autoImplicit false

namespace Tracepoint.Artifact

open DecoderTree

/-! ## Expressions -/

/-- What an expression yields that is shown: a number, or a text. -/
inductive Printable where
  | number (i : Int)
  | text (s : String)
  deriving DecidableEq, Repr

namespace Printable

/-- The form in which users read it. -/
def plain : Printable → String
  | .number i => toString i
  | .text s => s

/-- The form that tells where a text starts and ends. -/
def quoted : Printable → String
  | .number i => toString i
  | .text s => Text.Quoted.quote s

end Printable

/-- The number in a field. -/
def Struct.number? (struct : Struct) (field : String) : Option Int :=
  match struct.lookup field with
  | some (.value (.int i)) => some i
  | _ => none

/-- The buffer in a field. -/
def Struct.buffer? (struct : Struct) (field : String) : Option Bytes :=
  match struct.lookup field with
  | some (.value (.bytes content)) => some content
  | _ => none

/-- The path in a field. -/
def Struct.path? (struct : Struct) (field : String) : Option String :=
  match struct.lookup field with
  | some (.path text) => some text
  | _ => none

/-- What an expression yields; `ret?` is the return value if the function has a name for it. -/
def Shown.eval? (ret? : Option Int64) (struct : Struct) : Shown → Option Printable
  | .plain field => (struct.number? field).map .number
  | .terminated field =>
    (struct.buffer? field).map fun content => .text (Text.ofBytes content.untilNul)
  | .bounded field => do
    let ret ← ret?
    let content ← struct.buffer? field
    return .text (Text.ofBytes (content.transferred ret))

/-- What a value of a template yields. -/
def TemplateValue.eval? (ret? : Option Int64) (struct : Struct) : TemplateValue → Option Printable
  | .shown text => text.eval? ret? struct
  | .path field => (struct.path? field).map .text

/-! ## Templates -/

/-- The text of a template with a value for each placeholder, in order.  Braces stand in
placeholders only, and no value is left over. -/
def expand : List Char → List Printable → Option (List Char)
  | [], [] => some []
  | [], _ :: _ => none
  | '{' :: '}' :: template, v :: values =>
    (expand template values).map (v.plain.toList ++ ·)
  | '{' :: ':' :: '?' :: '}' :: template, v :: values =>
    (expand template values).map (v.quoted.toList ++ ·)
  | c :: template, values =>
    if c = '{' ∨ c = '}' then none else (expand template values).map (c :: ·)

/-- The text of a template as a string. -/
def format? (template : String) (values : List Printable) : Option String :=
  (expand template.toList values).map String.ofList

/-! ## Functions -/

/-- What an entry of the list of arguments gives. -/
def ArgEntry.eval? (ret? : Option Int64) (struct : Struct) : ArgEntry → Option (String × String)
  | .quoted name text => do
    let v ← text.eval? ret? struct
    return (name, ← format? Display.quoted.placeholders [v])
  | .withPath name text pathField => do
    let v ← text.eval? ret? struct
    let path ← struct.path? pathField
    return (name, ← format? Display.withPath.placeholders [v, .text path])
  | .plain name text => do
    let v ← text.eval? ret? struct
    return (name, v.plain)

namespace DecoderTree

variable (t : DecoderTree) (ret : Int64) (struct : Struct)

/-- The return value, if the showing functions have a name for it. -/
def returnValue? : Option Int64 :=
  if t.usesReturn then some ret else none

/-- What the function gives that shows all of an event. -/
def render? : Option String := do
  let values ← t.values.mapM (TemplateValue.eval? (t.returnValue? ret) struct)
  format? (templateText t.template) values

/-- What the function gives that shows one argument. -/
def arg? (n : Nat) : Option (Except ArgError String) :=
  match t.arms.find? fun arm => arm.1 = n with
  | some arm => (arm.2.eval? (t.returnValue? ret) struct).map fun v => .ok v.plain
  | none => some (.error (.outOfRange t.event n))

/-- What the function gives that lists the arguments. -/
def args? : Option (List (String × String)) :=
  t.entries.mapM (ArgEntry.eval? (t.returnValue? ret) struct)

end DecoderTree

/-! ## Displays -/

section Displays

variable {p : Param DecoderType}

theorem display_of_buffer (hty : p.ty.isBuffer = true) : display p = .quoted :=
  if_pos hty

theorem display_of_descriptor (hty : p.ty.isBuffer = false) (hpath : p.needsPath = true) :
    display p = .withPath := by
  rw [display, hty, hpath]
  rfl

theorem display_of_number (hty : p.ty.isBuffer = false) (hpath : p.needsPath = false) :
    display p = .plain := by
  rw [display, hty, hpath]
  rfl

end Displays

/-! ## Filling templates in -/

theorem expand_cons {c : Char} (hopen : c ≠ '{') (hclose : c ≠ '}') (template : List Char)
    (values : List Printable) :
    expand (c :: template) values = (expand template values).map (c :: ·) := by
  cases values <;> simp [expand, hopen, hclose]

theorem expand_plain (v : Printable) (template : List Char) (values : List Printable) :
    expand ('{' :: '}' :: template) (v :: values) =
      (expand template values).map (v.plain.toList ++ ·) :=
  rfl

/-- What is no brace is taken as it is. -/
theorem expand_literal {literal : List Char} (hopen : '{' ∉ literal) (hclose : '}' ∉ literal)
    (template : List Char) (values : List Printable) :
    expand (literal ++ template) values = (expand template values).map (literal ++ ·) := by
  induction literal with
  | nil => simp
  | cons c literal ih =>
    simp only [List.mem_cons, not_or] at hopen hclose
    rw [List.cons_append, expand_cons (Ne.symm hopen.1) (Ne.symm hclose.1), ih hopen.2 hclose.2,
      Option.map_map]
    rfl

example : format? "Fd \x7b\x7d<\x7b\x7d> Buf \x7b:?\x7d " [.number 3, .text "/tmp", .text "a\n"] =
    some "Fd 3</tmp> Buf \"a\\n\" " := by
  decide +kernel

end Artifact

open Artifact DecoderTree

/-! ## Structs of decoded syscalls -/

/-- The struct fields of an argument. -/
def Arg.slots (arg : Arg) : Struct :=
  (rustField arg.param.name, .value arg.value) ::
    arg.path?.toList.map fun path => (pathField arg.param.name, .path path)

/-- The struct of a decoded syscall. -/
def SyscallEvent.struct (e : SyscallEvent) : Struct :=
  e.args.flatMap Arg.slots

namespace Arg

/-- An argument as it is handed to templates. -/
def printable (policy : BufferPolicy) (ret : Int64) (arg : Arg) : Printable :=
  match arg.value with
  | .int i => .number i
  | .bytes content => .text (Text.ofBytes (policy.valid ret content))

theorem plain_printable (policy : BufferPolicy) (ret : Int64) (arg : Arg) :
    (arg.printable policy ret).plain = arg.text policy ret := by
  unfold printable text
  cases arg.value <;> rfl

/-- An argument with the path behind it, if it is a descriptor. -/
def printables (policy : BufferPolicy) (ret : Int64) (arg : Arg) : List Printable :=
  arg.printable policy ret :: arg.path?.toList.map .text

/-- An argument that the showing functions find in the struct, with the return value if they need
it. -/
structure Accessible (policy : BufferPolicy) (ret : Int64) (ret? : Option Int64) (struct : Struct)
    (arg : Arg) : Prop where
  shaped : arg.Shaped
  value : struct.lookup (rustField arg.param.name) = some (.value arg.value)
  path : ∀ path, arg.path? = some path →
    struct.lookup (pathField arg.param.name) = some (.path path)
  bound : policy = .returnBounded → arg.param.ty.isBuffer → ret? = some ret

section Shown

variable {policy : BufferPolicy} {ret : Int64} {ret? : Option Int64} {struct : Struct} {arg : Arg}

theorem Accessible.eval?_shown (h : arg.Accessible policy ret ret? struct) :
    (shown policy arg.param).eval? ret? struct = some (arg.printable policy ret) := by
  obtain ⟨hshaped, hvalue, -, hbound⟩ := h
  cases hshaped with
  | @buffer param content hty hpath =>
    have hbuffer : struct.buffer? (rustField param.name) = some content := by
      rw [Struct.buffer?, hvalue]
    cases policy with
    | nulTerminated => simp [shown, hty, Shown.eval?, hbuffer, printable,
        BufferPolicy.valid]
    | returnBounded => simp [shown, hty, Shown.eval?, hbuffer, hbound rfl hty,
        printable, BufferPolicy.valid]
  | @descriptor param fd path hty hpath =>
    have hnumber : struct.number? (rustField param.name) = some fd := by
      rw [Struct.number?, hvalue]
    simp [shown, hty, Shown.eval?, hnumber, printable]
  | @number param i hty hpath =>
    have hnumber : struct.number? (rustField param.name) = some i := by
      rw [Struct.number?, hvalue]
    simp [shown, hty, Shown.eval?, hnumber, printable]

theorem Accessible.eval?_path (h : arg.Accessible policy ret ret? struct) {path : String}
    (hpath : arg.path? = some path) : struct.path? (pathField arg.param.name) = some path := by
  rw [Struct.path?, h.path path hpath]

theorem Shaped.needsPath_eq (h : arg.Shaped) : arg.param.needsPath = arg.path?.isSome := by
  cases h with
  | buffer _ _ hpath => exact hpath
  | descriptor _ _ _ hpath => exact hpath
  | number _ _ hpath => exact hpath

/-- The values of an argument in the template. -/
theorem Accessible.eval?_values (h : arg.Accessible policy ret ret? struct) :
    (paramValues policy arg.param).mapM (TemplateValue.eval? ret? struct) =
      some (arg.printables policy ret) := by
  rw [paramValues, h.shaped.needsPath_eq, printables]
  cases hpath : arg.path? with
  | none => simp [TemplateValue.eval?, h.eval?_shown]
  | some path => simp [TemplateValue.eval?, h.eval?_shown, h.eval?_path hpath]

variable (policy ret) in
/-- The placeholders of an argument are filled in with what is displayed of it. -/
theorem Shaped.expand_placeholders (h : arg.Shaped) (template : List Char)
    (values : List Printable) :
    expand ((display arg.param).placeholders.toList ++ template)
        (arg.printables policy ret ++ values) =
      (expand template values).map ((arg.displayed policy ret).toList ++ ·) := by
  cases h with
  | @buffer param content hty hpath =>
    rw [display_of_buffer hty]
    rfl
  | @descriptor param fd path hty hpath =>
    rw [display_of_descriptor hty hpath]
    calc expand ('{' :: '}' :: '<' :: '{' :: '}' :: '>' :: template)
            (.number fd :: .text path :: values)
        = (((((expand template values).map ('>' :: ·)).map (path.toList ++ ·)).map
            ('<' :: ·)).map ((toString fd).toList ++ ·)) := by
          rw [expand_plain, expand_cons (by decide) (by decide), expand_plain,
            expand_cons (by decide) (by decide)]
          rfl
      _ = (expand template values).map
            ((Arg.displayed policy ret ⟨param, .int fd, some path⟩).toList ++ ·) := by
          simp [Option.map_map, Function.comp_def, Arg.displayed, Arg.text]
  | @number param i hty hpath =>
    rw [display_of_number hty hpath]
    rfl

variable (policy ret) in
theorem Shaped.format?_placeholders (h : arg.Shaped) :
    format? (display arg.param).placeholders (arg.printables policy ret) =
      some (arg.displayed policy ret) := by
  have hexpand := h.expand_placeholders policy ret [] []
  rw [List.append_nil, List.append_nil] at hexpand
  rw [format?, hexpand]
  simp [expand]

/-- The entry of an argument in the list of arguments. -/
theorem Accessible.eval?_entry (h : arg.Accessible policy ret ret? struct) :
    (paramEntry policy arg.param).eval? ret? struct =
      some (arg.param.name, arg.displayed policy ret) := by
  have hshown := h.eval?_shown
  have hfilled := h.shaped.format?_placeholders policy ret
  have hpath : ∀ path, arg.path? = some path →
      struct.path? (pathField arg.param.name) = some path := fun _ => h.eval?_path
  cases h.shaped with
  | @buffer param content hty hnone =>
    have hdisplay := display_of_buffer hty
    simp only [hdisplay, printables, Option.toList_none, List.map_nil] at hfilled
    simp [paramEntry, hdisplay, ArgEntry.eval?, hshown, hfilled]
  | @descriptor param fd path hty hsome =>
    have hdisplay := display_of_descriptor hty hsome
    simp only [hdisplay, printables, Option.toList_some, List.map_cons, List.map_nil] at hfilled
    simp [paramEntry, hdisplay, ArgEntry.eval?, hshown, hpath path rfl, hfilled]
  | @number param i hty hnone =>
    have hdisplay := display_of_number hty hnone
    simp [paramEntry, hdisplay, ArgEntry.eval?, hshown, plain_printable, displayed]

end Shown

end Arg

/-! ## Decoded syscalls -/

/-- No two struct fields of a decoder have one name. -/
theorem Traced.nodup_fields : ∀ call ∈ all,
    ((call.params.flatMap paramFields).map Prod.fst).Nodup := by
  decide +kernel

theorem Arg.Shaped.names_slots {arg : Arg} (h : arg.Shaped) :
    arg.slots.map Prod.fst = (paramFields arg.param).map Prod.fst := by
  unfold Arg.slots paramFields
  rw [h.needsPath_eq]
  cases arg.path? <;> rfl

theorem Arg.names_slots {args : List Arg} (h : ∀ arg ∈ args, arg.Shaped) :
    (args.flatMap slots).map Prod.fst =
      ((args.map Arg.param).flatMap paramFields).map Prod.fst := by
  rw [List.flatMap_map, List.map_flatMap, List.map_flatMap]
  exact List.flatMap_congr fun arg harg => (h arg harg).names_slots

/-- In `Option`, parts that are evaluated one by one are evaluated together. -/
theorem mapM_flatMap_eq_some {α β γ : Type} {f : α → List β} {g : β → Option γ}
    {values : α → List γ} {l : List α} (h : ∀ a ∈ l, (f a).mapM g = some (values a)) :
    (l.flatMap f).mapM g = some (l.flatMap values) := by
  induction l with
  | nil => rfl
  | cons a l ih =>
    rw [List.forall_mem_cons] at h
    rw [List.flatMap_cons, List.mapM_append, h.1, ih h.2]
    rfl

namespace SyscallEvent.Decoded

variable {e : SyscallEvent}

/-- The struct of a decoded syscall has the fields that the source declares, in order. -/
theorem names_struct (h : e.Decoded) :
    e.struct.map Prod.fst = (e.syscall.params.flatMap paramFields).map Prod.fst := by
  rw [struct, Arg.names_slots h.shaped, h.params]

/-- What the struct has of an argument is found by its name. -/
theorem lookup_struct (h : e.Decoded) {arg : Arg} (harg : arg ∈ e.args) {name : String}
    {slot : Slot} (hslot : (name, slot) ∈ arg.slots) : e.struct.lookup name = some slot := by
  have hnodup : (e.struct.map Prod.fst).Nodup := by
    rw [h.names_struct]
    exact Traced.nodup_fields e.syscall h.traced
  exact lookup_of_mem hnodup (List.mem_flatMap.mpr ⟨arg, harg, hslot⟩)

theorem lookup_path (h : e.Decoded) {arg : Arg} (harg : arg ∈ e.args) {path : String}
    (hpath : arg.path? = some path) :
    e.struct.lookup (pathField arg.param.name) = some (.path path) := by
  refine h.lookup_struct harg (List.mem_cons_of_mem _ ?_)
  simp [hpath]

/-- All arguments are found in the struct. -/
theorem accessible (h : e.Decoded) (record : Syscall RecordType) (message : String) (ret : Int64) :
    ∀ arg ∈ e.args, arg.Accessible e.syscall.policy ret
      ((ofSyscall e.syscall record message).returnValue? ret) e.struct := by
  intro arg harg
  refine ⟨h.shaped arg harg, h.lookup_struct harg List.mem_cons_self,
    fun path hpath => h.lookup_path harg hpath, ?_⟩
  intro hpolicy hbuffer
  have hbounds : boundsBuffers e.syscall = true := by
    rw [boundsBuffers, hpolicy, List.any_eq_true.mpr ⟨arg.param, h.param_mem harg, hbuffer⟩]
    rfl
  exact if_pos hbounds

end SyscallEvent.Decoded

/-- A template made of labels without braces is filled in argument by argument. -/
theorem expand_templateText (policy : BufferPolicy) (ret : Int64) {args : List Arg}
    (hshaped : ∀ arg ∈ args, arg.Shaped) (hword : ∀ arg ∈ args, IsWord arg.param.label) :
    expand (templateText (args.map fun arg => (arg.param.label, display arg.param))).toList
        (args.flatMap (Arg.printables policy ret)) =
      some (String.join (args.map fun arg =>
        arg.param.label ++ " " ++ arg.displayed policy ret ++ " ")).toList := by
  induction args with
  | nil => rfl
  | cons arg args ih =>
    rw [List.forall_mem_cons] at hshaped hword
    have hopen : '{' ∉ (arg.param.label ++ " ").toList := by
      simpa using hword.1.not_mem (by decide)
    have hclose : '}' ∉ (arg.param.label ++ " ").toList := by
      simpa using hword.1.not_mem (by decide)
    have htemplate : (templateText ((arg :: args).map fun arg =>
        (arg.param.label, display arg.param))).toList =
          (arg.param.label ++ " ").toList ++ ((display arg.param).placeholders.toList ++ ' ' ::
            (templateText (args.map fun arg => (arg.param.label, display arg.param))).toList) := by
      simp [templateText]
    rw [htemplate, List.flatMap_cons, expand_literal hopen hclose,
      hshaped.1.expand_placeholders policy ret, expand_cons (by decide) (by decide),
      ih hshaped.2 hword.2]
    simp

/-- The functions of a decoder give on the struct of a decoded syscall what the syscall shows. -/
structure Artifact.DecoderTree.Shows (tree : DecoderTree) (e : SyscallEvent) (ret : Int64) :
    Prop where
  render : tree.render? ret e.struct = some (e.render ret)
  args : tree.args? ret e.struct = some (e.namedArgs ret)
  arg (n : Nat) : tree.arg? ret e.struct n = some (e.arg n ret)

namespace SyscallEvent.Decoded

variable {e : SyscallEvent}

theorem render?_eq (h : e.Decoded) (record : Syscall RecordType) (message : String) (ret : Int64) :
    (ofSyscall e.syscall record message).render? ret e.struct = some (e.render ret) := by
  have hvalues : (ofSyscall e.syscall record message).values.mapM
      (TemplateValue.eval? ((ofSyscall e.syscall record message).returnValue? ret) e.struct) =
        some (e.args.flatMap (Arg.printables e.syscall.policy ret)) := by
    change (e.syscall.params.flatMap (paramValues e.syscall.policy)).mapM _ = _
    rw [← h.params, List.flatMap_map]
    exact mapM_flatMap_eq_some fun arg harg =>
      (h.accessible record message ret arg harg).eval?_values
  have hwords : ∀ arg ∈ e.args, IsWord arg.param.label := by
    intro arg harg
    rw [Traced.label_eq e.syscall h.traced arg.param (h.param_mem harg)]
    exact isWord_camelCase _
  have htemplate : (ofSyscall e.syscall record message).template =
      e.args.map fun arg => (arg.param.label, display arg.param) := by
    change e.syscall.params.map _ = _
    rw [← h.params, List.map_map]
    rfl
  have hexpand := expand_templateText e.syscall.policy ret h.shaped hwords
  have hformat : format? (templateText (ofSyscall e.syscall record message).template)
      (e.args.flatMap (Arg.printables e.syscall.policy ret)) = some (e.render ret) := by
    rw [format?, htemplate, hexpand, Option.map_some, String.ofList_toList]
    rfl
  rw [DecoderTree.render?, hvalues]
  exact hformat

theorem args?_eq (h : e.Decoded) (record : Syscall RecordType) (message : String) (ret : Int64) :
    (ofSyscall e.syscall record message).args? ret e.struct = some (e.namedArgs ret) := by
  change (e.syscall.params.map (paramEntry e.syscall.policy)).mapM _ = _
  rw [← h.params, List.map_map, List.map_eq_flatMap, SyscallEvent.namedArgs, List.map_eq_flatMap]
  refine mapM_flatMap_eq_some fun arg harg => ?_
  rw [List.mapM_cons, Function.comp_apply, (h.accessible record message ret arg harg).eval?_entry]
  rfl

theorem arg?_eq (h : e.Decoded) (record : Syscall RecordType) (message : String) (ret : Int64)
    (n : Nat) : (ofSyscall e.syscall record message).arg? ret e.struct n = some (e.arg n ret) := by
  have harms : (ofSyscall e.syscall record message).arms.find? (fun arm => arm.1 = n) =
      (e.args[n]?).map fun arg => (arg.param.position, shown e.syscall.policy arg.param) := by
    change (e.syscall.params.map fun p => (p.position, shown e.syscall.policy p)).find? _ = _
    rw [← h.params, List.map_map, List.find?_map, ← h.find?_position]
    rfl
  rw [DecoderTree.arg?, harms]
  cases harg : e.args[n]? with
  | none => exact congrArg some (h.arg_eq_error (List.getElem?_eq_none_iff.mp harg) ret).symm
  | some arg =>
    have haccessible := h.accessible record message ret arg (List.mem_of_getElem? harg)
    simp [haccessible.eval?_shown, h.arg_eq_ok harg, Arg.plain_printable]

/-- **The generated functions show what the decoded syscall shows**, however the probe writes it
and whatever the name of its message. -/
theorem shows_ofSyscall (h : e.Decoded) (record : Syscall RecordType) (message : String)
    (ret : Int64) : (ofSyscall e.syscall record message).Shows e ret where
  render := h.render?_eq record message ret
  args := h.args?_eq record message ret
  arg := h.arg?_eq record message ret

end SyscallEvent.Decoded

end Tracepoint
