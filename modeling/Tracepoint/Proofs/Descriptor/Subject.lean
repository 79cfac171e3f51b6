import Mathlib
import Tracepoint.Proofs.Descriptor.History

/-!
# The descriptor that an event is about

Some events have a field that is a descriptor: it is called `fd`, or `dfd`.  Together with the
process in the header it says which entry of the table the event is about.  That is the only entry
that decoding the event looks at.

* `Captured.subject?_of_decoded` — what a buffer is about can be read off the decoded event;
* `SyscallEvent.descriptor_of_needsPath` — a path is looked up for that field only;
* `decodeBuffer_congr` — decoding depends on the table through that entry only;
* `decodeBuffer_plain` — an event without such a field is decoded alike in all surroundings;
* `Captured.closes_iff` — which buffers are records of a `close`;
* `Operation.touch?_decode_eq_none` — decoding touches no other entry.
-/

set_option autoImplicit false

namespace Tracepoint

/-! ## Fields that are descriptors -/

/-- The names of fields that are descriptors. -/
def descriptorNames : List String := ["fd", "dfd"]

/-- The descriptor among named fields. -/
def descriptorAmong? (fields : List (String × Value)) : Option Fd :=
  (fields.find? fun field => field.1 ∈ descriptorNames).map fun field => field.2.descriptor

/-- The descriptor that an event is about. -/
def Event.descriptor? (event : Event) : Option Fd :=
  descriptorAmong? event.fields

/-- The descriptor that a payload of a kind is about; bytes that are missing count as zero. -/
def Kind.descriptor? (kind : Kind) (payload : Bytes) : Option Fd :=
  descriptorAmong? (kind.fieldNames.zip (kind.layout.read payload).1)

theorem Event.descriptor?_decodeKind (s : Surroundings) (t : Table) (pid : Pid) (payload : Bytes)
    (kind : Kind) :
    (decodeKind s t pid payload kind).1.value.descriptor? = kind.descriptor? payload := by
  rw [descriptor?, fields_decodeKind, Kind.descriptor?]

namespace Captured

/-- The process and the descriptor that a buffer is about. -/
def subject? (buffer : Bytes) : Option (Pid × Fd) :=
  let header := Header.front buffer
  (Kind.ofName? header.name).bind fun kind =>
    (kind.descriptor? (buffer.drop Header.size)).map (header.process, ·)

theorem subject?_of_record {buffer payload : Bytes} {header : Header} {kind : Kind}
    (h : Framed.ofBuffer buffer = .record header kind payload) :
    subject? buffer = (kind.descriptor? payload).map (header.process, ·) := by
  obtain ⟨-, rfl, rfl, hkind, -⟩ := Framed.ofBuffer_eq_record.mp h
  simp only [subject?, Kind.ofName?_eq_some.mpr hkind, Option.bind_some]

/-- **What a buffer is about**: the process in the header, and the descriptor of the event. -/
theorem subject?_of_decoded {s : Surroundings} {t : Table} {buffer : Bytes} {d : DecodedEvent}
    (h : (decodeBuffer s t buffer).value = .ok d) :
    subject? buffer = d.event.descriptor?.map (d.header.process, ·) := by
  rw [decodeBuffer_eq] at h
  rcases Framed.value_decode_eq_ok h with ⟨hframed, hunknown⟩ | ⟨kind, payload, hframed, -, hevent⟩
  · obtain ⟨-, hfront, hkind⟩ := Framed.ofBuffer_eq_unknown.mp hframed
    rw [hfront, ← Kind.ofName?_eq_none] at hkind
    rw [hunknown, subject?, hkind]
    rfl
  · rw [subject?_of_record hframed, hevent, Event.descriptor?_decodeKind]

end Captured

/-! ## Paths are looked up for descriptors -/

/-- A path goes with the first field that is a descriptor, and with no other. -/
theorem Traced.find?_of_needsPath :
    ∀ call ∈ all, ∀ p ∈ call.params, p.needsPath →
      call.params.find? (fun q => q.name ∈ descriptorNames) = some p := by
  decide

theorem Traced.nodup_params : ∀ call ∈ all, call.params.Nodup := by
  decide

/-- The descriptor among the fields of a syscall is the value of its parameter. -/
theorem descriptorAmong?_zip {params : List (Param DecoderType)} {values : List Value}
    {p : Param DecoderType} {v : Value} (hnodup : params.Nodup)
    (hfind : params.find? (fun q => q.name ∈ descriptorNames) = some p)
    (hmem : (p, v) ∈ params.zip values) :
    descriptorAmong? ((params.map Param.name).zip values) = some v.descriptor := by
  induction params generalizing values with
  | nil => cases hmem
  | cons q params ih =>
    cases values with
    | nil => cases hmem
    | cons w values =>
      rw [List.nodup_cons] at hnodup
      rw [List.zip_cons_cons, List.mem_cons, Prod.mk.injEq] at hmem
      by_cases hq : q.name ∈ descriptorNames
      · rw [List.find?_cons_of_pos (by simpa using hq), Option.some.injEq] at hfind
        subst hfind
        -- the parameter stands first, so its value does, unless it occurs again
        rcases hmem with ⟨-, rfl⟩ | hmem
        · simp [descriptorAmong?, hq]
        · exact absurd (List.of_mem_zip hmem).1 hnodup.1
      · rw [List.find?_cons_of_neg (by simpa using hq)] at hfind
        rcases hmem with ⟨rfl, -⟩ | hmem
        · exact absurd (by simpa using List.find?_some hfind) hq
        · have htail := ih hnodup.2 hfind hmem
          rwa [descriptorAmong?, List.map_cons, List.zip_cons_cons,
            List.find?_cons_of_neg (by simpa using hq)]

theorem Kind.syscall_mem {call : Syscall DecoderType} :
    .syscall call ∈ all ↔ call ∈ Traced.all := by
  simp [all, Stage.all]

/-- **A path is looked up for the descriptor of the event only.** -/
theorem SyscallEvent.descriptor_of_needsPath {call : Syscall DecoderType}
    (hcall : call ∈ Traced.all) {payload : Bytes} {pair : Param DecoderType × Value}
    (hmem : pair ∈ call.params.zip (call.layout.read payload).1) (hpath : pair.1.needsPath) :
    (Kind.syscall call).descriptor? payload = some pair.2.descriptor :=
  descriptorAmong?_zip (Traced.nodup_params call hcall)
    (Traced.find?_of_needsPath call hcall pair.1 (List.of_mem_zip hmem).1 hpath) hmem

/-! ## Decoding looks at one entry -/

section Looking

variable {procfs : Procfs} {t t' : Table} {pid : Pid}

theorem Tracker.value_resolve_congr {fd : Fd} (h : t.get? pid fd = t'.get? pid fd) :
    (resolve procfs.alone t pid fd).value = (resolve procfs.alone t' pid fd).value := by
  unfold resolve
  rw [h]
  cases hentry : t'.get? pid fd with
  | none => rfl
  | some entry => simp only [Procfs.alone, id_eq, h, hentry]

namespace SyscallEvent

theorem value_resolveArgs_congr {pairs : List (Param DecoderType × Value)}
    (h : ∀ pair ∈ pairs, pair.1.needsPath →
      t.get? pid pair.2.descriptor = t'.get? pid pair.2.descriptor) :
    (resolveArgs procfs.alone pid t pairs).value =
      (resolveArgs procfs.alone pid t' pairs).value := by
  induction pairs with
  | nil => rfl
  | cons pair pairs ih =>
    obtain ⟨param, value⟩ := pair
    have hrest := ih fun pair hmem => h pair (List.mem_cons_of_mem _ hmem)
    unfold resolveArgs
    by_cases hpath : param.needsPath
    · have hentry := h (param, value) List.mem_cons_self hpath
      simp only [if_pos hpath, Outcome.andThen, Outcome.map, Tracker.table_resolve_alone,
        Tracker.value_resolve_congr hentry, hrest]
    · simp only [if_neg hpath, Outcome.map, hrest]

/-- Where no path is looked up, the surroundings do not matter. -/
theorem resolveArgs_plain (s : Surroundings) (t : Table)
    {pairs : List (Param DecoderType × Value)} (h : ∀ pair ∈ pairs, ¬ pair.1.needsPath) :
    resolveArgs s pid t pairs = Outcome.pure t (pairs.map fun pair => ⟨pair.1, pair.2, none⟩) := by
  induction pairs with
  | nil => rfl
  | cons pair pairs ih =>
    obtain ⟨param, value⟩ := pair
    have hpath : ¬ param.needsPath := h (param, value) List.mem_cons_self
    rw [resolveArgs, if_neg hpath, ih fun pair hmem => h pair (List.mem_cons_of_mem _ hmem)]
    rfl

end SyscallEvent

/-- A word is cut to the width of descriptors as a number is. -/
theorem Value.descriptor_word (n : UInt64) : (Value.int n.toNat).descriptor = n.toUInt32 := by
  rw [← UInt32.toNat_inj]
  simp only [descriptor, UInt32.ofInt, UInt32.toNat_ofNat', UInt64.toNat_toUInt32]
  omega

/-- The payload of an installation starts with its descriptor. -/
theorem Kind.descriptor?_install (payload : Bytes) :
    Kind.install.descriptor? payload = some payload.read64.1.toUInt32 := by
  rw [← Value.descriptor_word, Bytes.read64_fst]
  rfl

namespace Event

variable {payload : Bytes} {kind : Kind}

theorem value_decodeKind_congr (hkind : kind ∈ Kind.all)
    (h : ∀ fd, kind.descriptor? payload = some fd → t.get? pid fd = t'.get? pid fd) :
    (decodeKind procfs.alone t pid payload kind).1.value =
      (decodeKind procfs.alone t' pid payload kind).1.value := by
  cases kind with
  | syscall call =>
    have hargs : (SyscallEvent.resolveArgs procfs.alone pid t
          (call.params.zip (call.layout.read payload).1)).value =
        (SyscallEvent.resolveArgs procfs.alone pid t'
          (call.params.zip (call.layout.read payload).1)).value :=
      SyscallEvent.value_resolveArgs_congr fun pair hmem hpath =>
        h _ (SyscallEvent.descriptor_of_needsPath (Kind.syscall_mem.mp hkind) hmem hpath)
    simp only [decodeKind, Outcome.map, SyscallEvent.value_decode, hargs]
  | install => rfl
  | connectionV4 stage => rfl
  | connectionV6 stage => rfl

theorem value_decodeKind_plain (hkind : kind ∈ Kind.all)
    (h : kind.descriptor? payload = none) (s s' : Surroundings) (t t' : Table) :
    (decodeKind s t pid payload kind).1.value = (decodeKind s' t' pid payload kind).1.value := by
  cases kind with
  | syscall call =>
    have hplain : ∀ pair ∈ call.params.zip (call.layout.read payload).1, ¬ pair.1.needsPath := by
      intro pair hmem hpath
      rw [SyscallEvent.descriptor_of_needsPath (Kind.syscall_mem.mp hkind) hmem hpath] at h
      cases h
    simp only [decodeKind, Outcome.map, SyscallEvent.value_decode,
      SyscallEvent.resolveArgs_plain _ _ hplain, Outcome.pure]
  | install =>
    rw [Kind.descriptor?_install] at h
    cases h
  | connectionV4 stage => rfl
  | connectionV6 stage => rfl

end Event

end Looking

/-- **Decoding depends on the table through one entry only**: that of what the buffer is about. -/
theorem decodeBuffer_congr {procfs : Procfs} {t t' : Table} {buffer : Bytes}
    (h : ∀ pid fd, Captured.subject? buffer = some (pid, fd) → t.get? pid fd = t'.get? pid fd) :
    (decodeBuffer procfs.alone t buffer).value = (decodeBuffer procfs.alone t' buffer).value := by
  rw [decodeBuffer_eq, decodeBuffer_eq]
  cases hframed : Framed.ofBuffer buffer with
  | rejected e => rfl
  | unknown header => rfl
  | record header kind payload =>
    have hkind := (Framed.ofBuffer_eq_record.mp hframed).2.2.2.1.1
    have hentry : ∀ fd, kind.descriptor? payload = some fd →
        t.get? header.process fd = t'.get? header.process fd := by
      intro fd hfd
      refine h _ _ ?_
      rw [Captured.subject?_of_record hframed, hfd]
      rfl
    simp only [Framed.decode, Outcome.map, Event.value_decodeKind_congr hkind hentry]

/-- **An event that is about no descriptor is decoded alike** in all surroundings. -/
theorem decodeBuffer_plain {s : Surroundings} {t : Table} {buffer : Bytes} {d : DecodedEvent}
    (h : (decodeBuffer s t buffer).value = .ok d) (hplain : d.event.descriptor? = none)
    (s' : Surroundings) (t' : Table) : (decodeBuffer s' t' buffer).value = .ok d := by
  rw [decodeBuffer_eq] at h ⊢
  cases hframed : Framed.ofBuffer buffer with
  | rejected e =>
    rw [hframed] at h
    cases h
  | unknown header =>
    rw [hframed] at h
    cases h
    rfl
  | record header kind payload =>
    rw [hframed] at h
    cases h
    have hkind := (Framed.ofBuffer_eq_record.mp hframed).2.2.2.1.1
    rw [Event.descriptor?_decodeKind] at hplain
    rw [Framed.decode, Outcome.map, Event.value_decodeKind_plain hkind hplain s' s t' t]

/-! ## Buffers that act on the table -/

/-- What a decoded syscall closes: the descriptor of a `close`, and nothing else. -/
theorem SyscallEvent.closedDescriptor?_decode (s : Surroundings) (t : Table) (pid : Pid)
    {call : Syscall DecoderType} (hcall : call ∈ Traced.all) (payload : Bytes) :
    (decode s t pid call payload).1.value.closedDescriptor? =
      if call = Traced.closeCall then (Kind.syscall call).descriptor? payload else none := by
  have hname : ∀ call ∈ Traced.all, call.name = "close" ↔ call = Traced.closeCall := by decide
  rw [closedDescriptor?_eq, value_decode]
  simp only [args_resolveArgs, hname call hcall]
  split_ifs with hclose
  · subst hclose
    rfl
  · rfl

theorem SyscallEvent.closedDescriptor?_of_decoded {s : Surroundings} {t : Table} {buffer : Bytes}
    {header : Header} {event : SyscallEvent}
    (h : (decodeBuffer s t buffer).value = .ok ⟨header, .syscall event⟩) :
    event.closedDescriptor? =
      if event.syscall = Traced.closeCall then (Event.syscall event).descriptor? else none := by
  rw [decodeBuffer_eq] at h
  rcases Framed.value_decode_eq_ok h with ⟨-, hunknown⟩ | ⟨kind, payload, hframed, hkind, hevent⟩
  · cases hunknown
  · obtain rfl : _ = kind := Option.some.inj hkind
    have hmem := (Framed.ofBuffer_eq_record.mp hframed).2.2.2.1.1
    have hdescriptor := Event.descriptor?_decodeKind s t header.process payload
      (.syscall event.syscall)
    rw [← hevent] at hdescriptor
    have hdecode : event = (decode s t header.process event.syscall payload).1.value :=
      Event.syscall.inj hevent
    rw [hdescriptor,
      ← closedDescriptor?_decode s t header.process (Kind.syscall_mem.mp hmem) payload, ← hdecode]

theorem Event.kind?_eq_syscall {event : Event} {call : Syscall DecoderType} :
    event.kind? = some (.syscall call) ↔ ∃ e, event = .syscall e ∧ e.syscall = call := by
  cases event <;> simp [kind?]

theorem Event.descriptor?_installed (event : InstallEvent) :
    (Event.install event).descriptor? = some event.fd.toUInt32 := by
  rw [← Value.descriptor_word]
  rfl

namespace Captured

/-- A complete record of an installation of a descriptor for a file. -/
def Installs (pid : Pid) (fd : Fd) (identity : Identity) (buffer : Bytes) : Prop :=
  ∃ s t header event, (decodeBuffer s t buffer).value = .ok ⟨header, .install event⟩ ∧
    header.process = pid ∧ event.fd.toUInt32 = fd ∧ event.identity = identity

/-- A complete record of a `close` of a descriptor. -/
def Closes (pid : Pid) (fd : Fd) (buffer : Bytes) : Prop :=
  ∃ s t d, (decodeBuffer s t buffer).value = .ok d ∧
    d.event.kind? = some (.syscall Traced.closeCall) ∧
      d.header.process = pid ∧ d.event.descriptor? = some fd

theorem Installs.subject?_eq {pid : Pid} {fd : Fd} {identity : Identity} {buffer : Bytes}
    (h : Installs pid fd identity buffer) : subject? buffer = some (pid, fd) := by
  obtain ⟨s, t, header, event, hdecode, rfl, rfl, -⟩ := h
  rw [subject?_of_decoded hdecode, Event.descriptor?_installed]
  rfl

theorem Closes.subject?_eq {pid : Pid} {fd : Fd} {buffer : Bytes} (h : Closes pid fd buffer) :
    subject? buffer = some (pid, fd) := by
  obtain ⟨s, t, d, hdecode, -, rfl, hfd⟩ := h
  rw [subject?_of_decoded hdecode, hfd]
  rfl

theorem closes_iff {pid : Pid} {fd : Fd} {buffer : Bytes} :
    Closes pid fd buffer ↔
      ∃ header payload,
        Framed.ofBuffer buffer = .record header (.syscall Traced.closeCall) payload ∧
        header.process = pid ∧ (Kind.syscall Traced.closeCall).descriptor? payload = some fd := by
  constructor
  · rintro ⟨s, t, d, hdecode, hkind, hpid, hfd⟩
    rw [decodeBuffer_eq] at hdecode
    rcases Framed.value_decode_eq_ok hdecode with ⟨-, hevent⟩ | ⟨kind, payload, hframed, hk, hevent⟩
    · rw [hevent] at hkind
      cases hkind
    · obtain rfl : kind = _ := Option.some.inj (hk.symm.trans hkind)
      rw [hevent, Event.descriptor?_decodeKind] at hfd
      exact ⟨d.header, payload, hframed, hpid, hfd⟩
  · rintro ⟨header, payload, hframed, hpid, hfd⟩
    refine ⟨⟨⟨fun _ _ => .ok [], fun _ _ => .ok ⟨0, 0, 0⟩⟩, id⟩, .empty, ?_⟩
    rw [decodeBuffer_eq, hframed]
    exact ⟨_, rfl, Event.kind?_decodeKind _ _ _ _ _, hpid,
      (Event.descriptor?_decodeKind _ _ _ _ _).trans hfd⟩

end Captured

/-! ## Touches by decoding -/

section Touching

variable {procfs : Procfs} {pid : Pid} {fd : Fd} {buffer : Bytes}

/-- The events that touch an entry: a syscall that closes its descriptor, and an installation. -/
theorem Event.touch?_eq_some {event : Event} {touch : Touch} :
    event.touch? procfs pid fd = some touch ↔
      (∃ e, event = .syscall e ∧ e.closedDescriptor? = some fd ∧ touch = .released) ∨
      ∃ e, event = .install e ∧ e.fd.toUInt32 = fd ∧
        touch = .installed (procfs.readlink pid fd) e.identity := by
  cases event with
  | syscall e => simp [touch?, eq_comm]
  | install e => simp [touch?, eq_comm]
  | connectionV4 connection => simp [touch?]
  | connectionV6 connection => simp [touch?]
  | unknown => simp [touch?]

/-- What a decoded buffer does to an entry can be read off the event, however it was decoded. -/
theorem Operation.touch?_of_decoded {s : Surroundings} {t : Table} {d : DecodedEvent}
    (h : (decodeBuffer s t buffer).value = .ok d) :
    (Operation.decode buffer).touch? procfs pid fd =
      if d.header.process = pid then d.event.touch? procfs pid fd else none := by
  rw [decodeBuffer_eq] at h
  rw [touch?, decodeBuffer_eq]
  rcases Framed.value_decode_eq_ok h with ⟨hframed, hevent⟩ | ⟨kind, payload, hframed, -, hevent⟩
  · rw [hframed, hevent]
    rfl
  · rw [hframed, hevent]
    simp only [Framed.decode, Outcome.map]
    rw [Event.touch?_decodeKind procfs pid fd procfs.alone s .empty t]

theorem Operation.touch?_decode_eq_some {touch : Touch} :
    (Operation.decode buffer).touch? procfs pid fd = some touch ↔
      ∃ s t d, (decodeBuffer s t buffer).value = .ok d ∧ d.header.process = pid ∧
        d.event.touch? procfs pid fd = some touch := by
  constructor
  · intro h
    cases hdecode : (decodeBuffer procfs.alone .empty buffer).value with
    | error e =>
      rw [touch?, hdecode] at h
      cases h
    | ok d =>
      rw [touch?_of_decoded hdecode] at h
      split_ifs at h with hpid
      exact ⟨_, _, d, hdecode, hpid, h⟩
  · rintro ⟨s, t, d, hdecode, hpid, htouch⟩
    rw [touch?_of_decoded hdecode, if_pos hpid, htouch]

/-- A decoded event touches the entry of its own descriptor only. -/
theorem Event.descriptor?_of_touch {s : Surroundings} {t : Table} {d : DecodedEvent}
    {touch : Touch} (h : (decodeBuffer s t buffer).value = .ok d)
    (htouch : d.event.touch? procfs pid fd = some touch) : d.event.descriptor? = some fd := by
  obtain ⟨header, event⟩ := d
  rcases touch?_eq_some.mp htouch with ⟨event, rfl, hclosed, -⟩ | ⟨event, rfl, hfd, -⟩
  · rw [SyscallEvent.closedDescriptor?_of_decoded h] at hclosed
    split_ifs at hclosed
    exact hclosed
  · rw [descriptor?_installed, hfd]

/-- Decoding touches no entry but that of what the buffer is about. -/
theorem Operation.touch?_decode_eq_none (h : Captured.subject? buffer ≠ some (pid, fd)) :
    (Operation.decode buffer).touch? procfs pid fd = none := by
  by_contra hne
  obtain ⟨touch, htouch⟩ := Option.ne_none_iff_exists'.mp hne
  obtain ⟨s, t, d, hdecode, rfl, htouch⟩ := touch?_decode_eq_some.mp htouch
  refine h ?_
  rw [Captured.subject?_of_decoded hdecode, Event.descriptor?_of_touch hdecode htouch]
  rfl

end Touching

end Tracepoint
