import Mathlib
import Tracepoint.Proofs.Descriptor.Subject

/-!
# The table is what its last writers left

After any history the table holds exactly the entries that were recorded and not given up since.
An installation records if its link could be read and leads to a path from the root; a later one
that records takes its place, and one that does not changes nothing.

* `Operation.touch?_eq_some` — which operations write to an entry;
* `Operation.get?_apply_eq_some` — what one operation leaves in an entry;
* `History.get?_table_eq_some` — what a whole history leaves in it;
* `History.last_writer_view` — the table after any history, and what decoding adds to it.
-/

set_option autoImplicit false

namespace Tracepoint

/-! ## Writers -/

namespace Operation

/-- An installation of a descriptor for a file: it is reported, or a record of it is decoded. -/
inductive Installs (pid : Pid) (fd : Fd) (identity : Identity) : Operation → Prop where
  | reported : Installs pid fd identity (.install pid fd identity)
  | decoded {buffer : Bytes} (h : Captured.Installs pid fd identity buffer) :
      Installs pid fd identity (.decode buffer)

/-- An installation that is recorded: the link could be read, and leads to a path from the root. -/
structure Records (procfs : Procfs) (pid : Pid) (fd : Fd) (entry : Entry) (op : Operation) :
    Prop where
  installs : op.Installs pid fd entry.identity
  link : procfs.readlink pid fd = .ok entry.path
  absolute : Path.isAbsolute entry.path

/-- The end of a descriptor: it is reported, with its process or alone, or a record of its `close`
is decoded. -/
inductive Releases (pid : Pid) (fd : Fd) : Operation → Prop where
  | forgotten : Releases pid fd (.forget pid fd)
  | exited : Releases pid fd (.exit pid)
  | closed {buffer : Bytes} (h : Captured.Closes pid fd buffer) : Releases pid fd (.decode buffer)

/-- An operation after which the entry is not what it was before, whatever that is. -/
def Overwrites (procfs : Procfs) (pid : Pid) (fd : Fd) (op : Operation) : Prop :=
  (∃ entry, op.Records procfs pid fd entry) ∨ op.Releases pid fd

end Operation

/-! ## Writers are touches -/

/-- What is recorded: the link and the file of an installation. -/
theorem Touch.recorded?_eq_some {touch : Touch} {entry : Entry} :
    touch.recorded? = some entry ↔
      touch = .installed (.ok entry.path) entry.identity ∧ Path.isAbsolute entry.path := by
  constructor
  · intro h
    cases touch with
    | released => cases h
    | installed link identity =>
      cases link with
      | error e => cases h
      | ok link =>
        rw [recorded?] at h
        split_ifs at h with habsolute
        cases h
        exact ⟨rfl, habsolute⟩
  · rintro ⟨rfl, habsolute⟩
    rw [recorded?, if_pos habsolute]

namespace Operation

variable {procfs : Procfs} {pid : Pid} {fd : Fd}

/-- What decoding a buffer does to an entry: it installs the descriptor, by the link that is read
then, or it closes it. -/
theorem touch?_decode_iff {buffer : Bytes} {touch : Touch} :
    (Operation.decode buffer).touch? procfs pid fd = some touch ↔
      (∃ identity, Captured.Installs pid fd identity buffer ∧
        touch = .installed (procfs.readlink pid fd) identity) ∨
      Captured.Closes pid fd buffer ∧ touch = .released := by
  rw [touch?_decode_eq_some]
  constructor
  · rintro ⟨s, t, ⟨header, event⟩, hdecode, hpid, htouch⟩
    rcases Event.touch?_eq_some.mp htouch with ⟨event, rfl, hclosed, rfl⟩ | ⟨event, rfl, hfd, rfl⟩
    · rw [SyscallEvent.closedDescriptor?_of_decoded hdecode] at hclosed
      split_ifs at hclosed with hclose
      have hkind := congrArg (some ∘ Kind.syscall) hclose
      exact .inr ⟨⟨s, t, _, hdecode, hkind, hpid, hclosed⟩, rfl⟩
    · exact .inl ⟨_, ⟨s, t, header, event, hdecode, hpid, hfd, rfl⟩, rfl⟩
  · rintro (⟨identity, ⟨s, t, header, event, hdecode, hpid, hfd, rfl⟩, rfl⟩ |
      ⟨⟨s, t, ⟨header, event⟩, hdecode, hkind, hpid, hfd⟩, rfl⟩)
    · exact ⟨s, t, _, hdecode, hpid, Event.touch?_eq_some.mpr (.inr ⟨event, rfl, hfd, rfl⟩)⟩
    · obtain ⟨event, rfl, hclose⟩ := Event.kind?_eq_syscall.mp hkind
      refine ⟨s, t, _, hdecode, hpid, Event.touch?_eq_some.mpr (.inl ⟨event, rfl, ?_, rfl⟩)⟩
      rw [SyscallEvent.closedDescriptor?_of_decoded hdecode, if_pos hclose, hfd]

/-- **The operations that touch an entry** are the installations and the releases of its
descriptor. -/
theorem touch?_eq_some {op : Operation} {touch : Touch} :
    op.touch? procfs pid fd = some touch ↔
      (∃ identity, op.Installs pid fd identity ∧
        touch = .installed (procfs.readlink pid fd) identity) ∨
      op.Releases pid fd ∧ touch = .released := by
  constructor
  · intro h
    cases op with
    | decode buffer =>
      rcases touch?_decode_iff.mp h with ⟨identity, hinstalls, rfl⟩ | ⟨hcloses, rfl⟩
      · exact .inl ⟨identity, .decoded hinstalls, rfl⟩
      · exact .inr ⟨.closed hcloses, rfl⟩
    | install p f i =>
      rw [touch?] at h
      split_ifs at h with hsame
      obtain ⟨rfl, rfl⟩ := hsame
      cases h
      exact .inl ⟨i, .reported, rfl⟩
    | resolve p f => cases h
    | forget p f =>
      rw [touch?] at h
      split_ifs at h with hsame
      obtain ⟨rfl, rfl⟩ := hsame
      cases h
      exact .inr ⟨.forgotten, rfl⟩
    | exit p =>
      rw [touch?] at h
      split_ifs at h with hsame
      subst hsame
      cases h
      exact .inr ⟨.exited, rfl⟩
  · rintro (⟨identity, hinstalls, rfl⟩ | ⟨hreleases, rfl⟩)
    · cases hinstalls with
      | reported => exact if_pos ⟨rfl, rfl⟩
      | decoded h => exact touch?_decode_iff.mpr (.inl ⟨identity, h, rfl⟩)
    · cases hreleases with
      | forgotten => exact if_pos ⟨rfl, rfl⟩
      | exited => exact if_pos rfl
      | closed h => exact touch?_decode_iff.mpr (.inr ⟨h, rfl⟩)

theorem records_iff {op : Operation} {entry : Entry} :
    op.Records procfs pid fd entry ↔
      ∃ touch, op.touch? procfs pid fd = some touch ∧ touch.recorded? = some entry := by
  constructor
  · rintro ⟨hinstalls, hlink, habsolute⟩
    refine ⟨_, touch?_eq_some.mpr (.inl ⟨_, hinstalls, rfl⟩), ?_⟩
    exact Touch.recorded?_eq_some.mpr ⟨by rw [hlink], habsolute⟩
  · rintro ⟨touch, htouch, hrecorded⟩
    obtain ⟨rfl, habsolute⟩ := Touch.recorded?_eq_some.mp hrecorded
    rcases touch?_eq_some.mp htouch with ⟨identity, hinstalls, heq⟩ | ⟨-, heq⟩
    · obtain ⟨hlink, rfl⟩ := Touch.installed.inj heq
      exact ⟨hinstalls, hlink.symm, habsolute⟩
    · cases heq

/-- **What one operation leaves in an entry**: what it records, or what was there before unless it
is overwritten. -/
theorem get?_apply_eq_some (t : Table) (op : Operation) (entry : Entry) :
    (op.apply procfs.alone t).table.get? pid fd = some entry ↔
      op.Records procfs pid fd entry ∨
        t.get? pid fd = some entry ∧ ¬ op.Overwrites procfs pid fd := by
  have hreleased : op.Releases pid fd ↔ op.touch? procfs pid fd = some .released := by
    simp [touch?_eq_some]
  rw [get?_apply, Overwrites, hreleased]
  simp only [records_iff]
  cases htouch : op.touch? procfs pid fd with
  | none => simp [Touch.afterAny]
  | some touch =>
    cases touch with
    | released => simp [Touch.afterAny, Touch.after, Touch.recorded?]
    | installed link identity =>
      cases hrecorded : (Touch.installed link identity).recorded? with
      | none => simp [Touch.afterAny, Touch.after, hrecorded]
      | some recorded => simp [Touch.afterAny, Touch.after, hrecorded]

end Operation

/-! ## Whole histories -/

namespace History

/-- The latest operation that overwrites the entry of a descriptor records `entry`. -/
def LastRecorded (pid : Pid) (fd : Fd) (entry : Entry) (history : History) : Prop :=
  ∃ earlier procfs op later, history = earlier ++ (procfs, op) :: later ∧
    op.Records procfs pid fd entry ∧
      ∀ moment ∈ later, ¬ moment.2.Overwrites moment.1 pid fd

variable {pid : Pid} {fd : Fd} {entry : Entry}

theorem lastRecorded_append_singleton {history : History} {procfs : Procfs} {op : Operation} :
    LastRecorded pid fd entry (history ++ [(procfs, op)]) ↔
      op.Records procfs pid fd entry ∨
        LastRecorded pid fd entry history ∧ ¬ op.Overwrites procfs pid fd := by
  constructor
  · rintro ⟨earlier, p, o, later, heq, hrecords, hlater⟩
    -- either nothing came after the recording, or the last operation did
    rcases List.eq_nil_or_concat later with rfl | ⟨later, moment, rfl⟩
    · obtain ⟨-, hlast⟩ := List.append_inj' heq rfl
      cases hlast
      exact .inl hrecords
    · rw [List.concat_eq_append] at heq hlater
      rw [← List.cons_append, ← List.append_assoc] at heq
      obtain ⟨rfl, hlast⟩ := List.append_inj' heq rfl
      cases hlast
      refine .inr ⟨⟨earlier, p, o, later, rfl, hrecords, ?_⟩, ?_⟩
      · intro moment hmem
        exact hlater moment (List.mem_append_left _ hmem)
      · exact hlater _ (List.mem_append_right _ (List.mem_singleton_self _))
  · rintro (hrecords | ⟨⟨earlier, p, o, later, rfl, hrecords, hlater⟩, hkept⟩)
    · exact ⟨history, procfs, op, [], rfl, hrecords, by simp⟩
    · refine ⟨earlier, p, o, later ++ [(procfs, op)], by simp, hrecords, ?_⟩
      intro moment hmem
      rcases List.mem_append.mp hmem with hmem | hmem
      · exact hlater moment hmem
      · rw [List.mem_singleton.mp hmem]
        exact hkept

theorem table_append_singleton (history : History) (procfs : Procfs) (op : Operation) :
    table (history ++ [(procfs, op)]) = (op.apply procfs.alone history.table).table := by
  simp only [table, Step.runTable, List.map_append, List.foldl_append]
  rfl

/-- **The table holds what was recorded last**, and nothing else. -/
theorem get?_table_eq_some (history : History) :
    history.table.get? pid fd = some entry ↔ history.LastRecorded pid fd entry := by
  induction history using List.reverseRecOn with
  | nil =>
    refine ⟨nofun, ?_⟩
    rintro ⟨earlier, p, o, later, heq, -⟩
    simp at heq
  | append_singleton history moment ih =>
    obtain ⟨procfs, op⟩ := moment
    rw [table_append_singleton, Operation.get?_apply_eq_some, ih, lastRecorded_append_singleton]

end History

/-! ## What decoding changes -/

section Decoding

variable {procfs : Procfs} {t : Table} {buffer : Bytes}

/-- Only an installation and a `close` change the table when they are decoded. -/
theorem table_decodeBuffer_alone
    (hinstall : ∀ pid fd identity, ¬ Captured.Installs pid fd identity buffer)
    (hclose : ∀ pid fd, ¬ Captured.Closes pid fd buffer) :
    (decodeBuffer procfs.alone t buffer).table = t := by
  rw [decodeBuffer_eq]
  cases hframed : Framed.ofBuffer buffer with
  | rejected e => rfl
  | unknown header => rfl
  | record header kind payload =>
    have hdecode : (decodeBuffer procfs.alone t buffer).value =
        .ok ⟨header, (Event.decodeKind procfs.alone t header.process payload kind).1.value⟩ := by
      rw [decodeBuffer_eq, hframed]
      rfl
    cases kind with
    | syscall call =>
      -- a syscall changes the table only by what it closes
      have hclosed : (SyscallEvent.decode procfs.alone t header.process call
          payload).1.value.closedDescriptor? = none := by
        have hsyscall : (decodeBuffer procfs.alone t buffer).value = .ok ⟨header, .syscall
            (SyscallEvent.decode procfs.alone t header.process call payload).1.value⟩ := hdecode
        rw [SyscallEvent.closedDescriptor?_of_decoded hsyscall]
        split_ifs with hcall
        · by_contra hne
          obtain ⟨fd, hfd⟩ := Option.ne_none_iff_exists'.mp hne
          exact hclose header.process fd ⟨_, _, _, hdecode, congrArg (some ∘ Kind.syscall) hcall,
            rfl, hfd⟩
        · rfl
      simp only [Framed.decode, Event.decodeKind, Outcome.map, SyscallEvent.table_decode_alone,
        hclosed]
    | install => exact absurd ⟨_, _, _, _, hdecode, rfl, rfl, rfl⟩ (hinstall _ _ _)
    | connectionV4 stage => rfl
    | connectionV6 stage => rfl

/-- They change no entry but their own. -/
theorem get?_table_decodeBuffer_alone {pid : Pid} {fd : Fd}
    (h : Captured.subject? buffer ≠ some (pid, fd)) :
    (decodeBuffer procfs.alone t buffer).table.get? pid fd = t.get? pid fd := by
  have happly := Operation.get?_apply procfs t pid fd (.decode buffer)
  rw [Operation.touch?_decode_eq_none h] at happly
  exact happly

end Decoding

/-! ## The table after any history -/

/-- What the table is after a history, and what decoding a buffer adds to it. -/
structure LastWriterView (history : History) : Prop where
  /-- An entry is there exactly if the latest operation that overwrites it records it. -/
  entry_iff : ∀ pid fd entry,
    history.table.get? pid fd = some entry ↔ history.LastRecorded pid fd entry
  absolute : ∀ pid fd entry, history.table.get? pid fd = some entry → Path.isAbsolute entry.path
  /-- Decoding anything but an installation or a `close` leaves the table as it is. -/
  kept : ∀ (procfs : Procfs) buffer,
    (∀ pid fd identity, ¬ Captured.Installs pid fd identity buffer) →
    (∀ pid fd, ¬ Captured.Closes pid fd buffer) →
      (decodeBuffer procfs.alone history.table buffer).table = history.table
  /-- Decoding one of these changes no entry but its own. -/
  confined : ∀ (procfs : Procfs) buffer pid fd,
    (∃ identity, Captured.Installs pid fd identity buffer) ∨ Captured.Closes pid fd buffer →
      ∀ pid' fd', (pid', fd') ≠ (pid, fd) →
        (decodeBuffer procfs.alone history.table buffer).table.get? pid' fd' =
          history.table.get? pid' fd'

/-- **The table is what its last writers left**, after any history. -/
theorem History.last_writer_view (history : History) : LastWriterView history where
  entry_iff _ _ _ := get?_table_eq_some history
  absolute := by
    intro pid fd entry h
    obtain ⟨_, _, _, _, -, hrecords, -⟩ := (get?_table_eq_some history).mp h
    exact hrecords.absolute
  kept _ _ hinstall hclose := table_decodeBuffer_alone hinstall hclose
  confined := by
    intro procfs buffer pid fd hacts pid' fd' hne
    have hsubject : Captured.subject? buffer = some (pid, fd) := by
      rcases hacts with ⟨identity, hinstalls⟩ | hcloses
      · exact hinstalls.subject?_eq
      · exact hcloses.subject?_eq
    refine get?_table_decodeBuffer_alone ?_
    rw [hsubject, ne_eq, Option.some.injEq]
    exact hne.symm

end Tracepoint
