import Mathlib
import Tracepoint.Event.Run
import Tracepoint.Proofs.Event.Framing

/-!
# What happened to a descriptor

A history is a run that has the table to itself.  What the table holds about a descriptor after it
depends on the *touches* of that descriptor alone: its installations, and its releases.

* `Operation.get?_apply` — what one operation leaves of an entry;
* `History.get?_table` — what a whole history leaves of it;
* `Touch.foldl_after_eq_some` — an entry was recorded by an installation, and everything after it
  failed to record.
-/

set_option autoImplicit false

namespace Tracepoint

/-- Surroundings in which nobody else uses the table. -/
def Procfs.alone (procfs : Procfs) : Surroundings :=
  ⟨procfs, id⟩

/-! ## Touches -/

/-- Something that concerns a descriptor. -/
inductive Touch where
  /-- It was installed for a file; its link was read. -/
  | installed (link : Except IoError Bytes) (identity : Identity)
  /-- It was closed, or its process is gone. -/
  | released

namespace Touch

/-- The entry that a touch records: that of an installed file with an absolute path. -/
def recorded? : Touch → Option Entry
  | .installed (.ok link) identity => if Path.isAbsolute link then some ⟨link, identity⟩ else none
  | .installed (.error _) _ => none
  | .released => none

/-- What is recorded after a touch, given what was before. -/
def after (before : Option Entry) : Touch → Option Entry
  | .released => none
  | .installed link identity => (Touch.installed link identity).recorded?.or before

/-- What is recorded after what may be a touch. -/
def afterAny (before : Option Entry) : Option Touch → Option Entry
  | none => before
  | some touch => touch.after before

/-- An installation that records nothing: its link could not be read, or leads to no path. -/
def Unrecorded (touch : Touch) : Prop :=
  touch ≠ .released ∧ touch.recorded? = none

end Touch

/-- What an event does that concerns a descriptor of its process. -/
def Event.touch? (procfs : Procfs) (pid : Pid) (fd : Fd) : Event → Option Touch
  | .syscall e => if e.closedDescriptor? = some fd then some .released else none
  | .install e =>
    if e.fd.toUInt32 = fd then some (.installed (procfs.readlink pid fd) e.identity) else none
  | .connectionV4 _ | .connectionV6 _ | .unknown => none

/-- What an operation does that concerns a descriptor. -/
def Operation.touch? (procfs : Procfs) (pid : Pid) (fd : Fd) : Operation → Option Touch
  | .decode buffer =>
    -- the fields of an event do not depend on the table, so any table will do
    match (decodeBuffer procfs.alone .empty buffer).value with
    | .ok d => if d.header.process = pid then d.event.touch? procfs pid fd else none
    | .error _ => none
  | .install p f identity =>
    if p = pid ∧ f = fd then some (.installed (procfs.readlink pid fd) identity) else none
  | .resolve _ _ => none
  | .forget p f => if p = pid ∧ f = fd then some .released else none
  | .exit p => if p = pid then some .released else none

/-- Operations in order, each with the answers of its moment. -/
abbrev History := List (Procfs × Operation)

namespace History

/-- The table after a history, from an empty one. -/
def table (history : History) : Table :=
  Step.runTable .empty (history.map fun (procfs, op) => ⟨procfs.alone, op⟩)

/-- What concerned a descriptor, in order. -/
def touches (pid : Pid) (fd : Fd) (history : History) : List Touch :=
  history.filterMap fun (procfs, op) => op.touch? procfs pid fd

end History

/-! ## Decoding alone -/

section Alone

variable (procfs : Procfs) (t : Table) (pid : Pid)

theorem Tracker.table_resolve_alone (fd : Fd) :
    (Tracker.resolve procfs.alone t pid fd).table = t := by
  unfold resolve
  split <;> rfl

namespace SyscallEvent

theorem table_resolveArgs_alone (pairs : List (Param DecoderType × Value)) :
    (resolveArgs procfs.alone pid t pairs).table = t := by
  induction pairs with
  | nil => rfl
  | cons pair pairs ih =>
    obtain ⟨param, value⟩ := pair
    unfold resolveArgs
    split
    · rw [Outcome.andThen, Outcome.map, Tracker.table_resolve_alone]
      exact ih
    · exact ih

/-- The descriptor that a decoded syscall closes is one of its fields. -/
theorem closedDescriptor?_eq (event : SyscallEvent) :
    event.closedDescriptor? =
      if event.syscall.name = "close" then
        ((event.args.map fun arg => (arg.param, arg.value)).find? fun pair =>
          pair.1.name = "fd").map fun pair => pair.2.descriptor
      else none := by
  unfold closedDescriptor?
  split
  · rw [List.find?_map, Option.map_map]
    rfl
  · rfl

theorem table_settle (event : SyscallEvent) :
    (settle pid event t).table =
      match event.closedDescriptor? with
      | some fd => t.erase pid fd
      | none => t := by
  unfold settle
  split <;> simp_all [Tracker.forget, Outcome.map, Outcome.pure]

theorem table_decode_alone (syscall : Syscall DecoderType) (payload : Bytes) :
    (decode procfs.alone t pid syscall payload).1.table =
      match (decode procfs.alone t pid syscall payload).1.value.closedDescriptor? with
      | some fd => t.erase pid fd
      | none => t := by
  simp only [decode, Outcome.andThen, value_settle, table_settle, table_resolveArgs_alone]

end SyscallEvent

end Alone

/-! ## One step -/

section Step

variable (procfs : Procfs) (t : Table) (pid : Pid) (fd : Fd)

theorem Installed.get?_record (link : Except IoError Bytes) (p : Pid) (f : Fd)
    (identity : Identity) :
    ((ofLink link).record identity p f t).get? pid fd =
      if p = pid ∧ f = fd then (Touch.installed link identity).after (t.get? pid fd)
      else t.get? pid fd := by
  cases link with
  | error e => simp [ofLink, record, Touch.after, Touch.recorded?]
  | ok link =>
    by_cases habsolute : Path.isAbsolute link
    · simp [ofLink, record, habsolute, Table.get?_put, Touch.after, Touch.recorded?]
    · simp [ofLink, record, habsolute, Touch.after, Touch.recorded?]

theorem Tracker.get?_install (p : Pid) (f : Fd) (identity : Identity) :
    (Tracker.install procfs t p f identity).table.get? pid fd =
      if p = pid ∧ f = fd then
        (Touch.installed (procfs.readlink pid fd) identity).after (t.get? pid fd)
      else t.get? pid fd := by
  have hrecord := Installed.get?_record t pid fd (procfs.readlink p f) p f identity
  rw [install, hrecord]
  split_ifs with hsame
  · rw [hsame.1, hsame.2]
  · rfl

/-- What an event does to a descriptor depends neither on the table nor on what is answered. -/
theorem Event.touch?_decodeKind (s₁ s₂ : Surroundings) (t₁ t₂ : Table) (p : Pid)
    (payload : Bytes) (kind : Kind) :
    (decodeKind s₁ t₁ p payload kind).1.value.touch? procfs pid fd =
      (decodeKind s₂ t₂ p payload kind).1.value.touch? procfs pid fd := by
  cases kind with
  | syscall call =>
    have hclosed : ∀ s t, (SyscallEvent.decode s t p call payload).1.value.closedDescriptor? =
        if call.name = "close" then
          ((call.params.zip (call.layout.read payload).1).find? fun pair =>
            pair.1.name = "fd").map fun pair => pair.2.descriptor
        else none := fun s t => by
      rw [SyscallEvent.closedDescriptor?_eq, SyscallEvent.value_decode,
        SyscallEvent.args_resolveArgs]
    simp only [decodeKind, Outcome.map, touch?, hclosed]
  | install => rfl
  | connectionV4 stage => rfl
  | connectionV6 stage => rfl

theorem Event.get?_decodeKind (p : Pid) (payload : Bytes) (kind : Kind) :
    (decodeKind procfs.alone t p payload kind).1.table.get? pid fd =
      if p = pid then
        Touch.afterAny (t.get? pid fd)
          ((decodeKind procfs.alone t p payload kind).1.value.touch? procfs pid fd)
      else t.get? pid fd := by
  cases kind with
  | syscall call =>
    simp only [decodeKind, Outcome.map, touch?, SyscallEvent.table_decode_alone]
    let decoded := SyscallEvent.decode procfs.alone t p call payload
    cases hclosed : decoded.1.value.closedDescriptor? with
    | none => simp [Touch.afterAny]
    | some f =>
      simp only [Table.get?_erase, Option.some.injEq]
      by_cases hp : p = pid <;> by_cases hf : f = fd <;> simp [hp, hf, Touch.afterAny, Touch.after]
  | install =>
    simp only [decodeKind, Outcome.map, touch?, InstallEvent.decode, Procfs.alone,
      Tracker.get?_install]
    by_cases hp : p = pid <;>
      by_cases hf : payload.read64.1.toUInt32 = fd <;> simp [hp, hf, Touch.afterAny]
  | connectionV4 stage => simp [decodeKind, Outcome.pure, touch?, Touch.afterAny]
  | connectionV6 stage => simp [decodeKind, Outcome.pure, touch?, Touch.afterAny]

/-- **What one operation leaves of an entry** is what its touch leaves of it. -/
theorem Operation.get?_apply (op : Operation) :
    (op.apply procfs.alone t).table.get? pid fd =
      Touch.afterAny (t.get? pid fd) (op.touch? procfs pid fd) := by
  cases op with
  | decode buffer =>
    simp only [apply, Outcome.map, touch?, decodeBuffer_eq]
    cases Framed.ofBuffer buffer with
    | rejected e => rfl
    | unknown header => simp [Framed.decode, Event.touch?, Touch.afterAny]
    | record header kind payload =>
      simp only [Framed.decode, Outcome.map, Event.get?_decodeKind]
      rw [Event.touch?_decodeKind procfs pid fd procfs.alone procfs.alone .empty t]
      split_ifs <;> rfl
  | install p f identity =>
    simp only [apply, Outcome.map, Procfs.alone, Tracker.get?_install, touch?]
    split_ifs <;> rfl
  | resolve p f =>
    simp only [apply, Outcome.map, Tracker.table_resolve_alone]
    rfl
  | forget p f =>
    simp only [apply, Outcome.map, Tracker.forget, Outcome.pure, Table.get?_erase, touch?]
    split_ifs <;> rfl
  | exit p =>
    simp only [apply, Outcome.map, Tracker.processExited, Outcome.pure, Table.get?_eraseProcess,
      touch?]
    split_ifs <;> rfl

end Step

/-! ## Whole histories -/

namespace History

variable (pid : Pid) (fd : Fd)

theorem touches_cons (procfs : Procfs) (op : Operation) (history : History) :
    touches pid fd ((procfs, op) :: history) =
      (op.touch? procfs pid fd).toList ++ touches pid fd history := by
  cases h : op.touch? procfs pid fd <;> simp [touches, h]

theorem get?_runTable (history : History) (t : Table) :
    (Step.runTable t (history.map fun (procfs, op) => ⟨procfs.alone, op⟩)).get? pid fd =
      (touches pid fd history).foldl Touch.after (t.get? pid fd) := by
  induction history generalizing t with
  | nil => rfl
  | cons moment history ih =>
    obtain ⟨procfs, op⟩ := moment
    have hstep : (op.touch? procfs pid fd).toList.foldl Touch.after (t.get? pid fd) =
        (op.apply procfs.alone t).table.get? pid fd := by
      rw [Operation.get?_apply]
      cases op.touch? procfs pid fd <;> rfl
    rw [touches_cons, List.foldl_append, hstep]
    exact ih (op.apply procfs.alone t).table

/-- **What a history leaves of an entry** is what its touches leave of it, one after another. -/
theorem get?_table (history : History) :
    (table history).get? pid fd = (touches pid fd history).foldl Touch.after none :=
  get?_runTable pid fd history .empty

end History

/-- **An entry was recorded by an installation, and nothing has recorded or released since.** -/
theorem Touch.foldl_after_eq_some {touches : List Touch} {entry : Entry}
    (h : touches.foldl after none = some entry) :
    ∃ earlier missed,
      touches = earlier ++ .installed (.ok entry.path) entry.identity :: missed ∧
      Path.isAbsolute entry.path ∧ ∀ touch ∈ missed, touch.Unrecorded := by
  induction touches using List.reverseRecOn with
  | nil => cases h
  | append_singleton touches touch ih =>
    rw [List.foldl_append, List.foldl_cons, List.foldl_nil] at h
    cases touch with
    | released => cases h
    | installed link identity =>
      rw [after] at h
      cases hentry : (Touch.installed link identity).recorded? with
      | none =>
        rw [hentry, Option.none_or] at h
        obtain ⟨earlier, missed, rfl, habsolute, hmissed⟩ := ih h
        refine ⟨earlier, missed ++ [.installed link identity], by simp, habsolute, ?_⟩
        intro touch htouch
        rcases List.mem_append.mp htouch with htouch | htouch
        · exact hmissed touch htouch
        · rw [List.mem_singleton.mp htouch]
          exact ⟨nofun, hentry⟩
      | some recorded =>
        rw [hentry, Option.some_or, Option.some.injEq] at h
        subst h
        cases link with
        | error e => cases hentry
        | ok link =>
          rw [recorded?] at hentry
          split_ifs at hentry with habsolute
          cases hentry
          exact ⟨touches, [], rfl, habsolute, by simp⟩

end Tracepoint
