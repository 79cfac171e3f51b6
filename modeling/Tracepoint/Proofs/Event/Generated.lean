import Mathlib
import Tracepoint.Bundled
import Tracepoint.Proofs.Artifact.FieldNames
import Tracepoint.Proofs.Artifact.Showing

/-!
# Generated decoders decode

The decoding function that is generated for a syscall fills a struct, then looks up the path behind
each descriptor, and at last drops the descriptor that was closed.  It does all this on the struct,
by the names of fields.  Where names tell the fields apart, that comes to decoding the arguments one
by one.

* `Statement.runAll`, `DecoderTree.decode?` — what the generated function does;
* `DecoderTree.Runnable` — what it needs of the parameters;
* `Statement.runAll_lookups`, `SyscallEvent.runAll_forgets` — its statements keep the struct and the
  table in step with the arguments;
* `DecoderTree.decode?_ofSyscall` — it decodes as the syscall is decoded;
* `Traced.compiled` — the traced syscalls are what the bundled formats are compiled to;
* `Traced.generated` — so captured payloads are decoded as the generated functions decode them.
-/

set_option autoImplicit false

namespace Tracepoint

namespace Artifact

open DecoderTree

/-! ## Statements -/

/-- The descriptor in a field, cut to the width of descriptors. -/
def Struct.descriptor? (struct : Struct) (field : String) : Option Fd :=
  (struct.number? field).map UInt32.ofInt

/-- The struct with another path in a field. -/
def Struct.assign (struct : Struct) (field path : String) : Struct :=
  struct.map fun slot => if slot.1 = field then (field, .path path) else slot

namespace Statement

/-- Carries out a statement; `none` if it names a field that is not there. -/
def run (s : Surroundings) (pid : Pid) (t : Table) (struct : Struct) :
    Statement → Option (Outcome Struct)
  | .resolve pathField field => do
    let fd ← struct.descriptor? field
    let _ ← struct.path? pathField
    return (Tracker.resolve s t pid fd).map fun resolution =>
      struct.assign pathField resolution.text
  | .forget field => do
    let fd ← struct.descriptor? field
    return (Tracker.forget t pid fd).map fun _ => struct

/-- Carries out statements in order. -/
def runAll (s : Surroundings) (pid : Pid) :
    Table → Struct → List Statement → Option (Outcome Struct)
  | t, struct, [] => some (Outcome.pure t struct)
  | t, struct, statement :: statements => do
    let first ← statement.run s pid t struct
    let others ← runAll s pid first.table first.value statements
    return first.andThen fun _ _ => others

theorem runAll_cons {s : Surroundings} {pid : Pid} {t : Table} {struct : Struct}
    {statement : Statement} {statements : List Statement} {first others : Outcome Struct}
    (hfirst : statement.run s pid t struct = some first)
    (hothers : runAll s pid first.table first.value statements = some others) :
    runAll s pid t struct (statement :: statements) = some (first.andThen fun _ _ => others) := by
  simp [runAll, hfirst, hothers]

theorem runAll_append {s : Surroundings} {pid : Pid} {t : Table} {struct : Struct}
    {before after : List Statement} {first others : Outcome Struct}
    (hbefore : runAll s pid t struct before = some first)
    (hafter : runAll s pid first.table first.value after = some others) :
    runAll s pid t struct (before ++ after) = some (first.andThen fun _ _ => others) := by
  induction before generalizing t struct first with
  | nil =>
    cases hbefore
    exact hafter
  | cons statement before ih =>
    simp only [runAll, Option.bind_eq_bind, Option.bind_eq_some_iff] at hbefore
    obtain ⟨one, hone, rest, hrest, hfirst⟩ := hbefore
    cases hfirst
    rw [List.cons_append, runAll_cons hone (ih hrest hafter)]
    simp [Outcome.andThen, List.append_assoc]

end Statement

namespace DecoderTree

/-- What the decoding function does with the payload behind a header: the struct, and the bytes
that are left.  `none` if one of the statements cannot be carried out. -/
def decode? (tree : DecoderTree) (s : Surroundings) (t : Table) (pid : Pid) (payload : Bytes) :
    Option (Outcome (Except DecodeError Struct) × Bytes) :=
  match tree.run payload with
  | none =>
    let e := DecodeError.truncatedPayload tree.event tree.payloadSize payload.length
    some (Outcome.pure t (.error e), payload)
  | some (struct, rest) =>
    (Statement.runAll s pid t struct (tree.resolutions ++ tree.forgets)).map fun outcome =>
      (outcome.map .ok, rest)

/-- What the decoding function of a syscall needs to be carried out as it stands. -/
structure Runnable (call : Syscall DecoderType) : Prop where
  /-- Names tell the fields of the struct apart. -/
  nodup : ((call.params.flatMap paramFields).map Prod.fst).Nodup
  /-- What a path is looked up for is a number. -/
  numbers : ∀ p ∈ call.params, p.ty.isBuffer → p.needsPath = false
  /-- What is called a descriptor is one. -/
  named : ∀ p ∈ call.params, p.name = "fd" → p.needsPath = true
  /-- A close has the descriptor that it drops. -/
  closed : call.name = "close" → ∃ p ∈ call.params, p.name = "fd"

end DecoderTree

/-! ## Looking paths up -/

theorem Struct.number?_of_mem {struct : Struct} (hnodup : (struct.map Prod.fst).Nodup)
    {field : String} {i : Int} (h : (field, .value (.int i)) ∈ struct) :
    struct.number? field = some i := by
  rw [number?, lookup_of_mem hnodup h]

theorem Struct.path?_of_mem {struct : Struct} (hnodup : (struct.map Prod.fst).Nodup)
    {field path : String} (h : (field, .path path) ∈ struct) : struct.path? field = some path := by
  rw [path?, lookup_of_mem hnodup h]

theorem Struct.assign_of_notMem {struct : Struct} {field : String}
    (h : field ∉ struct.map Prod.fst) (path : String) : struct.assign field path = struct := by
  refine (List.map_congr_left fun slot hslot => if_neg ?_).trans struct.map_id
  rintro rfl
  exact h (List.mem_map_of_mem hslot)

/-- An assignment changes the one field that has the name. -/
theorem Struct.assign_append_cons {before after : Struct} {field : String} {old : Slot}
    (hnodup : ((before ++ (field, old) :: after).map Prod.fst).Nodup) (path : String) :
    Struct.assign (before ++ (field, old) :: after) field path =
      before ++ (field, .path path) :: after := by
  rw [List.map_append, List.map_cons, List.nodup_append, List.nodup_cons] at hnodup
  obtain ⟨-, ⟨hafter, -⟩, hdisjoint⟩ := hnodup
  have hbefore : field ∉ before.map Prod.fst := fun hmem =>
    hdisjoint field hmem field List.mem_cons_self rfl
  calc Struct.assign (before ++ (field, old) :: after) field path
      = before.assign field path ++ (field, .path path) :: after.assign field path := by
        simp [assign]
    _ = before ++ (field, .path path) :: after := by
        rw [assign_of_notMem hbefore, assign_of_notMem hafter]

/-- The statements that look up the paths behind parameters. -/
def Statement.lookups (params : List (Param DecoderType)) : List Statement :=
  (params.filter Param.needsPath).map fun p => .resolve (pathField p.name) (rustField p.name)

/-- Looking up one path leaves the struct as the argument with that path has it. -/
theorem Statement.run_resolve (s : Surroundings) (pid : Pid) (t : Table) {p : Param DecoderType}
    (hneeds : p.needsPath = true) {i : Int} {done after : Struct}
    (hnodup : ((done ++ paramSlots p (.int i) ++ after).map Prod.fst).Nodup) :
    run s pid t (done ++ paramSlots p (.int i) ++ after)
        (.resolve (pathField p.name) (rustField p.name)) =
      some ((Tracker.resolve s t pid (Value.int i).descriptor).map fun resolution =>
        done ++ Arg.slots ⟨p, .int i, some resolution.text⟩ ++ after) := by
  have hslots : done ++ paramSlots p (.int i) ++ after =
      done ++ [(rustField p.name, .value (.int i))] ++ (pathField p.name, .path "") :: after := by
    simp [paramSlots, hneeds]
  rw [hslots] at hnodup ⊢
  have hnumber : Struct.number? _ (rustField p.name) = some i :=
    Struct.number?_of_mem hnodup (by simp)
  have hpath : Struct.path? _ (pathField p.name) = some "" := Struct.path?_of_mem hnodup (by simp)
  have hassign := Struct.assign_append_cons hnodup
  simp only [run, Struct.descriptor?, hnumber, hpath, hassign]
  simp [Arg.slots, Value.descriptor]

/-- **Looking paths up one by one**: the statements put them into the struct as the arguments have
them, behind the fields of the arguments that are done. -/
theorem Statement.runAll_lookups (s : Surroundings) (pid : Pid)
    {params : List (Param DecoderType)} {values : List Value}
    (h : List.Forall₂ (fun p v => p.ty.storage.Fits v) params values)
    (hnumbers : ∀ p ∈ params, p.ty.isBuffer → p.needsPath = false) (done : Struct)
    (hnodup : ((done ++ slots params values).map Prod.fst).Nodup) (t : Table) :
    runAll s pid t (done ++ slots params values) (lookups params) =
      some ((SyscallEvent.resolveArgs s pid t (params.zip values)).map fun args =>
        done ++ args.flatMap Arg.slots) := by
  induction h generalizing done t with
  | nil => rfl
  | @cons p v params values hfit _ ih =>
    rw [List.forall_mem_cons] at hnumbers
    rw [slots_cons, ← List.append_assoc] at hnodup ⊢
    rw [List.zip_cons_cons, SyscallEvent.resolveArgs, lookups, List.filter_cons]
    cases hneeds : p.needsPath with
    | false =>
      -- the field has its value already, and nothing is looked up for it
      have hslots : paramSlots p v = Arg.slots ⟨p, v, none⟩ := by
        rw [paramSlots, hneeds]
        rfl
      rw [hslots] at hnodup ⊢
      simp only [Bool.false_eq_true, if_false]
      rw [← lookups, ih hnumbers.2 _ hnodup t]
      simp [Outcome.map]
    | true =>
      obtain ⟨content, rfl, hbuffer⟩ | ⟨i, rfl, -⟩ := DecoderType.fits_cases hfit
      · cases (hnumbers.1 hbuffer).symm.trans hneeds
      let looked := Tracker.resolve s t pid (Value.int i).descriptor
      have hnames : (Arg.slots ⟨p, .int i, some looked.value.text⟩).map Prod.fst =
          (paramSlots p (.int i)).map Prod.fst := by
        rw [paramSlots, hneeds]
        rfl
      have hrest := ih hnumbers.2 (done ++ Arg.slots ⟨p, .int i, some looked.value.text⟩)
        (by simpa only [List.map_append, hnames] using hnodup) looked.table
      rw [if_pos rfl, if_pos rfl, List.map_cons, ← lookups,
        runAll_cons (run_resolve s pid t hneeds hnodup) hrest]
      simp [Outcome.andThen, Outcome.map, looked]

end Artifact

open Artifact DecoderTree

/-! ## Dropping what is closed -/

namespace SyscallEvent

variable {e : SyscallEvent}

theorem nodup_struct (hrun : Runnable e.syscall) (hparams : e.args.map Arg.param = e.syscall.params)
    (hshaped : ∀ arg ∈ e.args, arg.Shaped) : (e.struct.map Prod.fst).Nodup := by
  rw [struct, Arg.names_slots hshaped, hparams]
  exact hrun.nodup

/-- What a close drops is the descriptor in the field of its struct that is called one. -/
theorem exists_closed (hrun : Runnable e.syscall)
    (hparams : e.args.map Arg.param = e.syscall.params) (hshaped : ∀ arg ∈ e.args, arg.Shaped)
    (hclose : e.syscall.name = "close") :
    ∃ fd, e.closedDescriptor? = some fd ∧ Struct.descriptor? e.struct "fd" = some fd := by
  obtain ⟨p, hp, hfd⟩ := hrun.closed hclose
  obtain ⟨named, hnamed, rfl⟩ := List.mem_map.mp (hparams ▸ hp)
  obtain ⟨arg, hfind⟩ : ∃ arg, e.args.find? (fun arg => arg.param.name = "fd") = some arg := by
    rw [← Option.isSome_iff_exists, List.find?_isSome]
    exact ⟨named, hnamed, decide_eq_true hfd⟩
  have hmem := List.mem_of_find?_eq_some hfind
  have hname : arg.param.name = "fd" := by simpa using List.find?_some hfind
  have hneeds := hrun.named arg.param (hparams ▸ List.mem_map_of_mem hmem) hname
  cases hshaped arg hmem with
  | buffer content hty hpath => cases hneeds.symm.trans hpath
  | number i hty hpath => cases hneeds.symm.trans hpath
  | @descriptor param fd path hty hpath =>
    have hslot : ("fd", .value (.int fd)) ∈ e.struct := by
      refine List.mem_flatMap.mpr ⟨_, hmem, List.mem_cons.mpr (.inl ?_)⟩
      rw [hname, rustField_fd]
    refine ⟨UInt32.ofInt fd, ?_, ?_⟩
    · rw [closedDescriptor?, if_pos hclose, hfind]
      rfl
    · rw [Struct.descriptor?, Struct.number?_of_mem (nodup_struct hrun hparams hshaped) hslot]
      rfl

/-- **Dropping what is closed**: the statement does to the table what settling the event does. -/
theorem runAll_forgets (s : Surroundings) (pid : Pid) (t : Table) (hrun : Runnable e.syscall)
    (hparams : e.args.map Arg.param = e.syscall.params) (hshaped : ∀ arg ∈ e.args, arg.Shaped) :
    Statement.runAll s pid t e.struct
        (if forgetsDescriptor e.syscall then [.forget "fd"] else []) =
      some ((settle pid e t).map struct) := by
  have hforgets : forgetsDescriptor e.syscall = true ↔ e.syscall.name = "close" :=
    decide_eq_true_iff
  rw [settle]
  by_cases hclose : e.syscall.name = "close"
  · obtain ⟨fd, hclosed, hfd⟩ := exists_closed hrun hparams hshaped hclose
    rw [if_pos (hforgets.mpr hclose), hclosed]
    simp [Statement.runAll, Statement.run, hfd, Outcome.map, Outcome.andThen, Outcome.pure]
  · rw [if_neg (mt hforgets.mp hclose), closedDescriptor?, if_neg hclose]
    rfl

/-! ## Decoding -/

/-- The syscall in a payload, and the bytes after it.  A payload that is too short stays as it is,
and so does the table. -/
def decodeChecked (s : Surroundings) (t : Table) (pid : Pid) (call : Syscall DecoderType)
    (payload : Bytes) : Outcome (Except DecodeError SyscallEvent) × Bytes :=
  match ensurePayload call.name call.layout.size payload.length with
  | .error e => (Outcome.pure t (.error e), payload)
  | .ok () =>
    let (outcome, rest) := decode s t pid call payload
    (outcome.map .ok, rest)

end SyscallEvent

/-- An event that the header announces as a syscall is decoded as that syscall. -/
theorem Event.decode_of_name {call : Syscall DecoderType} (hcall : call ∈ Traced.all)
    {header : Header} (hname : header.name = call.name) (s : Surroundings) (t : Table)
    (payload : Bytes) :
    let decoded := SyscallEvent.decodeChecked s t header.process call payload
    decode s t header payload = (decoded.1.map (Except.map .syscall), decoded.2) := by
  have hkind : Kind.ofName? header.name = some (.syscall call) :=
    Kind.ofName?_eq_some.mpr ⟨Kind.syscall_mem.mpr hcall, hname.symm⟩
  rw [decode, hkind, SyscallEvent.decodeChecked]
  change (match ensurePayload call.name call.layout.size payload.length with
    | .error e => _
    | .ok () => _) = _
  cases ensurePayload call.name call.layout.size payload.length <;> rfl

namespace Artifact.DecoderTree

variable {call : Syscall DecoderType} {record : Syscall RecordType}

/-- The struct is filled with the values that are read for the parameters. -/
theorem run_ofSyscall (hrecord : List.Forall₂ Param.RecordedAs call.params record.params)
    (message : String) (payload : Bytes) :
    let read := call.layout.read payload
    (ofSyscall call record message).run payload =
      if payload.length < call.layout.size then none
      else some (slots call.params read.1, read.2) := by
  have hsize : (ofSyscall call record message).payloadSize = call.layout.size :=
    congrArg Layout.size (storage_of_records hrecord)
  have hfill : fill (ofSyscall call record message).initials payload = _ :=
    fill_read hrecord payload
  rw [run, hsize, hfill]
  rfl

/-- The statements after the struct is filled do what decoding the syscall does. -/
theorem runAll_ofSyscall (hrun : Runnable call) (record : Syscall RecordType) (message : String)
    (s : Surroundings) (t : Table) (pid : Pid) {payload : Bytes}
    (hsize : call.layout.size ≤ payload.length) :
    let tree := ofSyscall call record message
    Statement.runAll s pid t (slots call.params (call.layout.read payload).1)
        (tree.resolutions ++ tree.forgets) =
      some ((SyscallEvent.decode s t pid call payload).1.map SyscallEvent.struct) := by
  intro tree
  let values := (call.layout.read payload).1
  let args := SyscallEvent.resolveArgs s pid t (call.params.zip values)
  have hfits : List.Forall₂ (fun p v => p.ty.storage.Fits v) call.params values :=
    List.forall₂_map_left_iff.mp (Layout.fits_read hsize)
  have hparams : args.value.map Arg.param = call.params :=
    SyscallEvent.params_resolveArgs s pid t hfits.length_eq
  have hshaped : ∀ arg ∈ args.value, arg.Shaped :=
    SyscallEvent.shaped_resolveArgs s pid t hfits hrun.numbers
  have hnodup : ((slots call.params values).map Prod.fst).Nodup := by
    rw [declared_names (slots_admitted hfits)]
    exact hrun.nodup
  have hlookedUp : Statement.runAll s pid t (slots call.params values) tree.resolutions =
      some (args.map fun args => args.flatMap Arg.slots) :=
    Statement.runAll_lookups s pid hfits hrun.numbers [] hnodup t
  have hdropped : Statement.runAll s pid args.table (args.value.flatMap Arg.slots) tree.forgets =
      some ((SyscallEvent.settle pid ⟨call, args.value⟩ args.table).map SyscallEvent.struct) :=
    SyscallEvent.runAll_forgets (e := ⟨call, args.value⟩) s pid args.table hrun hparams hshaped
  exact Statement.runAll_append hlookedUp hdropped

/-- **The generated function decodes as the syscall is decoded**, in all surroundings: it rejects
what is rejected, reads what is read, asks what is asked in that order, and leaves the same table
and the same bytes. -/
theorem decode?_ofSyscall (hrun : Runnable call)
    (hrecord : List.Forall₂ Param.RecordedAs call.params record.params) (message : String)
    (s : Surroundings) (t : Table) (pid : Pid) (payload : Bytes) :
    let decoded := SyscallEvent.decodeChecked s t pid call payload
    (ofSyscall call record message).decode? s t pid payload =
      some (decoded.1.map (Except.map SyscallEvent.struct), decoded.2) := by
  have hsize : (ofSyscall call record message).payloadSize = call.layout.size :=
    congrArg Layout.size (storage_of_records hrecord)
  rw [decode?, run_ofSyscall hrecord, hsize, SyscallEvent.decodeChecked, ensurePayload]
  by_cases hshort : payload.length < call.layout.size
  · rw [if_pos hshort, if_pos hshort]
    rfl
  · have hstatements := runAll_ofSyscall hrun record message s t pid (Nat.not_lt.mp hshort)
    rw [if_neg hshort, if_neg hshort]
    exact congrArg (Option.map _) hstatements

end Artifact.DecoderTree

/-! ## The traced syscalls -/

/-- What a format is compiled to depends on its characters only. -/
theorem Compiled.ofFormat_eq {format : String} {chars : List Char} (h : format.toList = chars)
    (name : String) :
    ofFormat name format =
      (Field.ofLines name (((Text.lines chars).dropWhile (· ≠ [])).filter
        FieldLine.declares)).map (ofFields name) := by
  subst h
  unfold ofFormat fieldLines
  split <;> rename_i hlines <;> rw [hlines] <;> rfl

namespace Traced

set_option maxRecDepth 1000 in
/-- **The traced syscalls are what the bundled formats are compiled to.** -/
theorem compiled : List.Forall₂ (fun format call =>
    (Compiled.ofFormat format.1 format.2).map Compiled.decoder = .ok call)
    Bundled.formats all := by
  refine .cons ?_ <| .cons ?_ <| .cons ?_ <| .cons ?_ <| .cons ?_ <| .cons ?_ <|
    .cons ?_ <| .cons ?_ <| .cons ?_ <| .cons ?_ <| .cons ?_ <| .cons ?_ .nil
  all_goals
    -- the characters of a literal are at hand, and need not be decoded from its bytes
    rw [Compiled.ofFormat_eq (by
      delta Bundled.chmodFormat Bundled.chownFormat Bundled.closeFormat Bundled.fchmodFormat
        Bundled.fchmodatFormat Bundled.fchownFormat Bundled.fchownatFormat Bundled.mkdirFormat
        Bundled.mkdiratFormat Bundled.openFormat Bundled.readFormat Bundled.writeFormat
      simp only [String.toList_append, -String.reduceAppend, -String.reduceToList]
      repeat rewrite [String.toList_ofList]
      rfl)]
    decide +kernel

theorem runnable {call : Syscall DecoderType} (hcall : call ∈ all) : Runnable call where
  nodup := nodup_fields call hcall
  numbers := needsPath_eq_false call hcall
  named := by
    revert call
    decide
  closed := by
    revert call
    decide

/-- Every traced syscall comes from the bundled format of its name. -/
theorem exists_format {call : Syscall DecoderType} (hcall : call ∈ all) :
    ∃ format c, (call.name, format) ∈ Bundled.formats ∧
      Compiled.ofFormat call.name format = .ok c ∧ c.decoder = call := by
  obtain ⟨i, hi, rfl⟩ := List.getElem_of_mem hcall
  obtain ⟨hlength, hget⟩ := List.forall₂_iff_get.mp compiled
  have hcompiled := hget i (hlength ▸ hi) hi
  have hmem := List.get_mem Bundled.formats ⟨i, hlength ▸ hi⟩
  generalize Bundled.formats.get ⟨i, hlength ▸ hi⟩ = bundled at hcompiled hmem
  obtain ⟨name, format⟩ := bundled
  cases hc : Compiled.ofFormat name format with
  | error e => cases hc ▸ hcompiled
  | ok c =>
    rw [hc] at hcompiled
    have hdecoder : c.decoder = all[i] := Except.ok.inj hcompiled
    obtain ⟨fields, rfl, -⟩ := Compiled.ofFormat_ok hc
    rw [← hdecoder]
    exact ⟨format, _, hmem, hc, rfl⟩

/-- **Captured payloads are decoded as the generated functions decode them**: for every traced
syscall, on every payload and in all surroundings, the function that is generated for the bundled
format has the same outcome, with the syscall as a struct, and leaves the same bytes. -/
theorem generated {call : Syscall DecoderType} (hcall : call ∈ all) :
    ∃ format c, (call.name, format) ∈ Bundled.formats ∧
      Compiled.ofFormat call.name format = .ok c ∧ c.decoder = call ∧
      ∀ (s : Surroundings) (t : Table) (header : Header) (payload : Bytes),
        header.name = call.name →
        ∃ (outcome : Outcome (Except DecodeError SyscallEvent)) (rest : Bytes),
          Event.decode s t header payload = (outcome.map (Except.map .syscall), rest) ∧
          (treeOf c).decode? s t header.process payload =
            some (outcome.map (Except.map SyscallEvent.struct), rest) := by
  obtain ⟨format, c, hformat, hc, rfl⟩ := exists_format hcall
  refine ⟨format, c, hformat, hc, rfl, fun s t header payload hname => ?_⟩
  exact ⟨_, _, Event.decode_of_name hcall hname s t payload,
    decode?_ofSyscall (runnable hcall) (Compiled.ofFormat_records hc) _ s t _ payload⟩

end Traced

end Tracepoint
