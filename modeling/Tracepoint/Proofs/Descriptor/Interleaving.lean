import Mathlib
import Tracepoint.Proofs.Descriptor.Reuse
import Tracepoint.Proofs.Descriptor.Subject
import Tracepoint.Proofs.Event.Faithful

/-!
# While a path is looked up

The table is not held while the question where a file is gets its answer, and others may change it
as they like.  A path is told only if the entry is there again when the answer comes.  A `close`
does not look that far: it drops whatever entry is there by then.

* `resolution_contract` — what is told of a path, for every change and every answer;
* `closing_contract` — what a `close` leaves of the table, and when it loses an entry;
* `newer_entry_lost` — an entry that was recorded meanwhile is lost.
-/

set_option autoImplicit false

namespace Tracepoint

/-! ## Changes -/

namespace Table

/-- A change that others make to the table. -/
inductive Change where
  | put (pid : Pid) (fd : Fd) (entry : Entry)
  | erase (pid : Pid) (fd : Fd)
  | eraseProcess (pid : Pid)
  | clear
  deriving DecidableEq, Repr

/-- The table after a change. -/
def change (t : Table) : Change → Table
  | .put pid fd entry => t.put pid fd entry
  | .erase pid fd => t.erase pid fd
  | .eraseProcess pid => t.eraseProcess pid
  | .clear => .empty

/-- The table after changes in order. -/
def changed (t : Table) (changes : List Change) : Table :=
  changes.foldl change t

/-! ### Paths from the root -/

/-- Every entry has a path from the root. -/
def Rooted (t : Table) : Prop :=
  ∀ pid fd entry, t.get? pid fd = some entry → Path.isAbsolute entry.path

/-- A change that puts no entry but one with a path from the root. -/
def Change.Rooted (c : Change) : Prop :=
  ∀ pid fd entry, c = .put pid fd entry → Path.isAbsolute entry.path

theorem rooted_empty : Rooted empty :=
  fun _ _ _ h => nomatch h

theorem Rooted.put {t : Table} (h : t.Rooted) (pid : Pid) (fd : Fd) {entry : Entry}
    (habsolute : Path.isAbsolute entry.path) : (t.put pid fd entry).Rooted := by
  intro p f e he
  rw [get?_put] at he
  split_ifs at he
  · cases he
    exact habsolute
  · exact h p f e he

theorem Rooted.change {t : Table} (h : t.Rooted) {c : Change} (hc : c.Rooted) :
    (t.change c).Rooted := by
  cases c with
  | put pid fd entry => exact h.put pid fd (hc pid fd entry rfl)
  | erase pid fd =>
    intro p f e he
    rw [Table.change, get?_erase] at he
    split_ifs at he
    exact h p f e he
  | eraseProcess pid =>
    intro p f e he
    rw [Table.change, get?_eraseProcess] at he
    split_ifs at he
    exact h p f e he
  | clear => exact rooted_empty

/-- Changes that put only entries with paths from the root keep it that way. -/
theorem Rooted.changed {t : Table} (h : t.Rooted) {changes : List Change}
    (hchanges : ∀ c ∈ changes, c.Rooted) : (t.changed changes).Rooted := by
  induction changes generalizing t with
  | nil => exact h
  | cons c changes ih =>
    rw [List.forall_mem_cons] at hchanges
    exact ih (h.change hchanges.1) hchanges.2

end Table

/-- Surroundings in which others make changes while a path is looked up. -/
def Procfs.amid (procfs : Procfs) (changes : List Table.Change) : Surroundings :=
  ⟨procfs, fun t => t.changed changes⟩

/-! ## What is told of a path -/

section Resolving

variable (procfs : Procfs) (t : Table) (changes : List Table.Change) (pid : Pid) (fd : Fd)

/-- The entry is there before and after, and its file is where it was. -/
structure Confirmed (entry : Entry) : Prop where
  held : t.get? pid fd = some entry
  current : procfs.stat pid entry.path = .ok entry.identity
  again : ∃ now, (t.changed changes).get? pid fd = some now ∧
    Path.components now.path = Path.components entry.path ∧ now.identity = entry.identity

/-- The entry is there, and no file is at its path. -/
structure Gone (entry : Entry) : Prop where
  held : t.get? pid fd = some entry
  missing : ∃ e, procfs.stat pid entry.path = .error e ∧ e.kind = .notFound

end Resolving

/-- What is told of a path where no file is any more. -/
def deletedText (path : Bytes) : String :=
  "[deleted] (" ++ Text.Quoted.quote (Text.ofBytes path) ++ ")?"

/-- A text starts with a slash. -/
def StartsWithSlash (text : String) : Prop :=
  text.toList.head? = some '/'

theorem StartsWithSlash.ne_deletedText {text : String} (h : StartsWithSlash text) (path : Bytes) :
    text ≠ deletedText path :=
  (isPath_of_slash h).2 path

theorem StartsWithSlash.ne_unknown {text : String} (h : StartsWithSlash text) :
    text ≠ unknownPath :=
  (isPath_of_slash h).1

theorem deletedText_ne_unknown (path : Bytes) : deletedText path ≠ unknownPath := by
  intro h
  have hhead := congrArg (fun text => text.toList.head?) h
  simp [deletedText, unknownPath] at hhead

namespace Tracker

variable {procfs : Procfs} {t : Table} {changes : List Table.Change} {pid : Pid} {fd : Fd}
  {entry : Entry}

theorem resolve_confirmed (h : Confirmed procfs t changes pid fd entry) :
    (resolve (procfs.amid changes) t pid fd).value = .current entry.path := by
  obtain ⟨hheld, hcurrent, now, hnow, hpath, hidentity⟩ := h
  have hsame : Entry.same entry now := by
    simp [Entry.same, Path.same, hpath, hidentity]
  simp only [resolve, hheld, Procfs.amid, hcurrent, hnow, Resolution.judge, if_true,
    Option.any_some, hsame]

theorem resolve_gone (h : Gone procfs t pid fd entry) :
    (resolve (procfs.amid changes) t pid fd).value = .deleted entry.path := by
  obtain ⟨hheld, e, hmissing, hkind⟩ := h
  simp only [resolve, hheld, Procfs.amid, hmissing, Resolution.judge, hkind, if_true]

theorem text_resolve_otherwise (hconfirmed : ∀ entry, ¬ Confirmed procfs t changes pid fd entry)
    (hgone : ∀ entry, ¬ Gone procfs t pid fd entry) :
    (resolve (procfs.amid changes) t pid fd).value.text = unknownPath := by
  cases hheld : t.get? pid fd with
  | none =>
    simp only [resolve, hheld]
    rfl
  | some entry =>
    simp only [resolve, hheld, Procfs.amid]
    unfold Resolution.judge
    split
    · rename_i identity hanswer
      split_ifs with hidentity hsame
      · -- the file and the entry are both there: that is what is confirmed
        exfalso
        obtain ⟨now, hnow, hsame⟩ := (Option.any_eq_true _ _).mp hsame
        simp only [Entry.same, Path.same, Bool.and_eq_true, decide_eq_true_eq] at hsame
        exact hconfirmed entry ⟨hheld, hidentity ▸ hanswer, now, hnow, hsame.1.symm, hsame.2.symm⟩
      · rfl
      · rfl
    · rename_i e hanswer
      split_ifs with hkind
      · exact absurd ⟨hheld, e, hanswer, hkind⟩ (hgone entry)
      · rfl

theorem table_resolve (s : Surroundings) :
    (resolve s t pid fd).table = if (t.get? pid fd).isSome then s.meanwhile t else t := by
  unfold resolve
  cases t.get? pid fd <;> rfl

end Tracker

/-- What is told of the path of a descriptor while others make changes. -/
def toldAmid (procfs : Procfs) (t : Table) (changes : List Table.Change) (pid : Pid) (fd : Fd) :
    String :=
  (Tracker.resolve (procfs.amid changes) t pid fd).value.text

section Telling

variable {procfs : Procfs} {t : Table} {changes : List Table.Change} {pid : Pid} {fd : Fd}
  {entry : Entry}

theorem told_of_confirmed (h : Confirmed procfs t changes pid fd entry) :
    toldAmid procfs t changes pid fd = Text.ofBytes entry.path := by
  rw [toldAmid, Tracker.resolve_confirmed h]
  rfl

theorem told_of_gone (h : Gone procfs t pid fd entry) :
    toldAmid procfs t changes pid fd = deletedText entry.path := by
  rw [toldAmid, Tracker.resolve_gone h]
  rfl

/-- A lookup ends in one of three ways. -/
theorem told_cases :
    (∃ entry, Confirmed procfs t changes pid fd entry) ∨ (∃ entry, Gone procfs t pid fd entry) ∨
      toldAmid procfs t changes pid fd = unknownPath := by
  by_cases hconfirmed : ∃ entry, Confirmed procfs t changes pid fd entry
  · exact .inl hconfirmed
  · by_cases hgone : ∃ entry, Gone procfs t pid fd entry
    · exact .inr (.inl hgone)
    · exact .inr (.inr (Tracker.text_resolve_otherwise (not_exists.mp hconfirmed)
        (not_exists.mp hgone)))

theorem Confirmed.startsWithSlash (h : Confirmed procfs t changes pid fd entry)
    (hrooted : t.Rooted) : StartsWithSlash (toldAmid procfs t changes pid fd) := by
  rw [told_of_confirmed h]
  exact (Text.head?_ofBytes entry.path).mpr (hrooted pid fd entry h.held)

theorem startsWithSlash_told_iff (hrooted : t.Rooted) :
    StartsWithSlash (toldAmid procfs t changes pid fd) ↔
      ∃ entry, Confirmed procfs t changes pid fd entry := by
  constructor
  · intro h
    rcases told_cases with hconfirmed | ⟨entry, hgone⟩ | hunknown
    · exact hconfirmed
    · exact absurd (told_of_gone hgone) (h.ne_deletedText _)
    · exact absurd hunknown h.ne_unknown
  · rintro ⟨entry, h⟩
    exact h.startsWithSlash hrooted

theorem told_deleted_iff (hrooted : t.Rooted) :
    (∃ path, toldAmid procfs t changes pid fd = deletedText path) ↔
      ∃ entry, Gone procfs t pid fd entry := by
  constructor
  · rintro ⟨path, h⟩
    rcases told_cases with ⟨entry, hconfirmed⟩ | hgone | hunknown
    · exact absurd h ((hconfirmed.startsWithSlash hrooted).ne_deletedText path)
    · exact hgone
    · exact absurd (h.symm.trans hunknown) (deletedText_ne_unknown path)
  · rintro ⟨entry, h⟩
    exact ⟨entry.path, told_of_gone h⟩

theorem told_unknown_iff (hrooted : t.Rooted) :
    toldAmid procfs t changes pid fd = unknownPath ↔
      (∀ entry, ¬ Confirmed procfs t changes pid fd entry) ∧
        ∀ entry, ¬ Gone procfs t pid fd entry := by
  constructor
  · intro h
    constructor
    · intro entry hconfirmed
      exact (hconfirmed.startsWithSlash hrooted).ne_unknown h
    · intro entry hgone
      exact deletedText_ne_unknown entry.path ((told_of_gone hgone).symm.trans h)
  · rintro ⟨hconfirmed, hgone⟩
    exact Tracker.text_resolve_otherwise hconfirmed hgone

theorem Table.Rooted.resolve (hrooted : t.Rooted) (hchanges : ∀ c ∈ changes, c.Rooted) :
    (Tracker.resolve (procfs.amid changes) t pid fd).table.Rooted := by
  rw [Tracker.table_resolve]
  split_ifs
  · exact hrooted.changed hchanges
  · exact hrooted

end Telling

/-- What looking a path up promises while others make changes. -/
structure ResolutionContract (procfs : Procfs) (t : Table) (changes : List Table.Change)
    (pid : Pid) (fd : Fd) : Prop where
  path_iff : StartsWithSlash (toldAmid procfs t changes pid fd) ↔
    ∃ entry, Confirmed procfs t changes pid fd entry
  path_text : ∀ entry, Confirmed procfs t changes pid fd entry →
    toldAmid procfs t changes pid fd = Text.ofBytes entry.path
  deleted_iff : (∃ path, toldAmid procfs t changes pid fd = deletedText path) ↔
    ∃ entry, Gone procfs t pid fd entry
  deleted_text : ∀ entry, Gone procfs t pid fd entry →
    toldAmid procfs t changes pid fd = deletedText entry.path
  unknown_iff : toldAmid procfs t changes pid fd = unknownPath ↔
    (∀ entry, ¬ Confirmed procfs t changes pid fd entry) ∧ ∀ entry, ¬ Gone procfs t pid fd entry
  /-- The three are told apart by their texts. -/
  distinct : (∀ text path, StartsWithSlash text → text ≠ deletedText path) ∧
    (∀ text, StartsWithSlash text → text ≠ unknownPath) ∧
    ∀ path, deletedText path ≠ unknownPath
  /-- The table is what the others made of it; they have no time if nothing is asked. -/
  table : (Tracker.resolve (procfs.amid changes) t pid fd).table =
    if (t.get? pid fd).isSome then t.changed changes else t
  /-- What holds of the table now holds of it for the next question. -/
  rooted : (∀ c ∈ changes, c.Rooted) → (Tracker.resolve (procfs.amid changes) t pid fd).table.Rooted

/-- **A path is told exactly if its entry is confirmed**, whatever others do meanwhile. -/
theorem resolution_contract (procfs : Procfs) {t : Table} (hrooted : t.Rooted)
    (changes : List Table.Change) (pid : Pid) (fd : Fd) :
    ResolutionContract procfs t changes pid fd where
  path_iff := startsWithSlash_told_iff hrooted
  path_text _ h := told_of_confirmed h
  deleted_iff := told_deleted_iff hrooted
  deleted_text _ h := told_of_gone h
  unknown_iff := told_unknown_iff hrooted
  distinct :=
    ⟨fun _ path h => h.ne_deletedText path, fun _ h => h.ne_unknown, deletedText_ne_unknown⟩
  table := Tracker.table_resolve _
  rooted := hrooted.resolve

/-! ### A file that is installed again meanwhile -/

/-- A table where a descriptor is recorded for the file at `/tmp/log`. -/
def logTable : Table :=
  Table.empty.put 100 5 ⟨logPath, logFile⟩

/-- The path `//tmp/./log`, which has the components of `/tmp/log`. -/
def longLogPath : Bytes :=
  [0x2F, 0x2F, 0x74, 0x6D, 0x70, 0x2F, 0x2E, 0x2F, 0x6C, 0x6F, 0x67]

/-- The descriptor is closed, and installed again for a file at `//tmp/./log`. -/
def reinstalled (identity : Identity) : List Table.Change :=
  [.erase 100 5, .put 100 5 ⟨longLogPath, identity⟩]

theorem get?_logTable : logTable.get? 100 5 = some ⟨logPath, logFile⟩ :=
  Table.get?_put _ _ _ _ _ _

theorem rooted_logTable : logTable.Rooted :=
  Table.rooted_empty.put 100 5 rfl

theorem get?_reinstalled (t : Table) (identity : Identity) :
    (t.changed (reinstalled identity)).get? 100 5 = some ⟨longLogPath, identity⟩ :=
  Table.get?_put _ _ _ _ _ _

/-- The path that was asked for is told, not the one that the same file has by then. -/
theorem resolution_reinstalled :
    logTable.Rooted ∧
      ResolutionContract (.answering logPath logFile) logTable (reinstalled logFile) 100 5 ∧
      Confirmed (.answering logPath logFile) logTable (reinstalled logFile) 100 5
        ⟨logPath, logFile⟩ ∧
      toldAmid (.answering logPath logFile) logTable (reinstalled logFile) 100 5 = "/tmp/log" := by
  have hcontract := resolution_contract (.answering logPath logFile) rooted_logTable
    (reinstalled logFile) 100 5
  have hconfirmed : Confirmed (.answering logPath logFile) logTable (reinstalled logFile) 100 5
      ⟨logPath, logFile⟩ :=
    ⟨get?_logTable, rfl, _, get?_reinstalled _ _, by decide, rfl⟩
  refine ⟨rooted_logTable, hcontract, hconfirmed, ?_⟩
  rw [hcontract.path_text _ hconfirmed]
  decide

/-! ## Closing amid changes -/

section Closing

variable {procfs : Procfs} {t : Table} {changes : List Table.Change} {pid : Pid} {fd : Fd}
  {buffer : Bytes}

/-- A `close` asks for the path of its descriptor, and then drops the entry that is there. -/
theorem SyscallEvent.table_decode_close (s : Surroundings) {payload : Bytes}
    (h : (Kind.syscall Traced.closeCall).descriptor? payload = some fd) :
    (decode s t pid Traced.closeCall payload).1.table =
      (Tracker.resolve s t pid fd).table.erase pid fd := by
  obtain rfl := Option.some.inj h
  rfl

theorem table_decodeBuffer_close (s : Surroundings) (h : Captured.Closes pid fd buffer) :
    (decodeBuffer s t buffer).table = (Tracker.resolve s t pid fd).table.erase pid fd := by
  obtain ⟨header, payload, hframed, rfl, hfd⟩ := Captured.closes_iff.mp h
  rw [decodeBuffer_eq, hframed]
  exact SyscallEvent.table_decode_close s hfd

/-- The path that goes with a `close` is the one that is told of its descriptor. -/
theorem SyscallEvent.paths_decode_close (s : Surroundings) {payload : Bytes}
    (h : (Kind.syscall Traced.closeCall).descriptor? payload = some fd) :
    (decode s t pid Traced.closeCall payload).1.value.args.map Arg.path? =
      [some (Tracker.resolve s t pid fd).value.text] := by
  obtain rfl := Option.some.inj h
  rfl

theorem paths_decodeBuffer_close (s : Surroundings) (h : Captured.Closes pid fd buffer) :
    ∃ header event, (decodeBuffer s t buffer).value = .ok ⟨header, .syscall event⟩ ∧
      event.args.map Arg.path? = [some (Tracker.resolve s t pid fd).value.text] := by
  obtain ⟨header, payload, hframed, rfl, hfd⟩ := Captured.closes_iff.mp h
  rw [decodeBuffer_eq, hframed]
  exact ⟨header, _, rfl, SyscallEvent.paths_decode_close s hfd⟩

end Closing

section Keeping

variable (procfs : Procfs) (t : Table) (changes : List Table.Change) (pid : Pid) (fd : Fd)
  (buffer : Bytes)

/-- If the entry has become another one when the answer comes, it is still that one once the buffer
is decoded. -/
def KeepsNewer : Prop :=
  ∀ before newer, t.get? pid fd = some before → (t.changed changes).get? pid fd = some newer →
    ¬ before.same newer →
      (decodeBuffer (procfs.amid changes) t buffer).table.get? pid fd = some newer

/-- What decoding a `close` does while others make changes. -/
structure ClosingContract : Prop where
  tells : ∃ header event,
    (decodeBuffer (procfs.amid changes) t buffer).value = .ok ⟨header, .syscall event⟩ ∧
      event.args.map Arg.path? = [some (toldAmid procfs t changes pid fd)]
  /-- The entry is dropped from what the others made of the table. -/
  table : (decodeBuffer (procfs.amid changes) t buffer).table =
    (if (t.get? pid fd).isSome then t.changed changes else t).erase pid fd
  /-- Whichever entry it is, it is dropped. -/
  dropped : (decodeBuffer (procfs.amid changes) t buffer).table.get? pid fd = none
  /-- So a newer entry is kept only in that there is none. -/
  keeps_iff : KeepsNewer procfs t changes pid fd buffer ↔
    ∀ before now, t.get? pid fd = some before → (t.changed changes).get? pid fd = some now →
      before.same now

end Keeping

/-- **A `close` drops the entry that is there when the answer comes**, whoever recorded it. -/
theorem closing_contract (procfs : Procfs) (t : Table) (changes : List Table.Change) {pid : Pid}
    {fd : Fd} {buffer : Bytes} (hclose : Captured.Closes pid fd buffer) :
    ClosingContract procfs t changes pid fd buffer := by
  have htable := table_decodeBuffer_close (t := t) (procfs.amid changes) hclose
  have hdropped : (decodeBuffer (procfs.amid changes) t buffer).table.get? pid fd = none := by
    rw [htable, Table.get?_erase, if_pos ⟨rfl, rfl⟩]
  refine ⟨paths_decodeBuffer_close _ hclose, ?_, hdropped, ?_, ?_⟩
  · rw [htable, Tracker.table_resolve]
    rfl
  · intro hkeeps before now hbefore hnow
    by_contra hnewer
    have hkept := hkeeps before now hbefore hnow hnewer
    rw [hdropped] at hkept
    cases hkept
  · intro hsame before newer hbefore hnow hnewer
    exact absurd (hsame before newer hbefore hnow) hnewer

/-! ### A record of a `close` -/

/-- The record of a `close` closes the descriptor in it, for the process in its header. -/
theorem Captured.closes_encode (header : Header) (hname : header.name = "close") {value : Value}
    (hv : (Kind.syscall Traced.closeCall).layout.Fits [value]) :
    Closes header.process value.descriptor
      (Kind.encode (.syscall Traced.closeCall) header [value]) := by
  have hkind : .syscall Traced.closeCall ∈ Kind.all := by decide
  have hlen := Header.length_nameField header.name
  have hbytes : Text.ofBytes (Header.nameField header.name).untilNul = header.name := by
    rw [hname]
    exact Kind.ofBytes_nameField (.syscall Traced.closeCall) hkind
  have hread := Layout.read_encode_append hv []
  rw [List.append_nil] at hread
  let payload := (Kind.syscall Traced.closeCall).layout.encode [value]
  refine closes_iff.mpr ⟨header, payload, ?_, rfl, ?_⟩
  · rw [Kind.encode, Header.encode, List.append_assoc]
    refine framed_record hkind hlen hbytes hname.symm ?_
    rw [Layout.length_encode hv.length_eq.symm]
    exact le_rfl
  · rw [Kind.descriptor?, hread]
    rfl

/-- The process closes its descriptor. -/
def closeBuffer : Bytes :=
  Kind.encode (.syscall Traced.closeCall) ⟨1, 100, 0, "close"⟩ [.int 5]

theorem closes_closeBuffer : Captured.Closes 100 5 closeBuffer :=
  Captured.closes_encode ⟨1, 100, 0, "close"⟩ rfl (.cons (by decide) .nil)

/-- The same file is installed again: there is nothing newer to lose. -/
theorem closing_reinstalled :
    Captured.Closes 100 5 closeBuffer ∧
      ClosingContract (.answering logPath logFile) logTable (reinstalled logFile) 100 5
        closeBuffer ∧
      KeepsNewer (.answering logPath logFile) logTable (reinstalled logFile) 100 5 closeBuffer := by
  have hcontract := closing_contract (.answering logPath logFile) logTable (reinstalled logFile)
    closes_closeBuffer
  refine ⟨closes_closeBuffer, hcontract, hcontract.keeps_iff.mpr ?_⟩
  intro before now hbefore hnow
  rw [get?_logTable] at hbefore
  rw [get?_reinstalled] at hnow
  cases hbefore
  cases hnow
  decide

/-- **A newer entry is lost**: that of a file that the descriptor was installed for meanwhile. -/
theorem newer_entry_lost :
    ¬ ∀ (procfs : Procfs) (t : Table) (changes : List Table.Change) (pid : Pid) (fd : Fd)
        (buffer : Bytes), Captured.Closes pid fd buffer →
          KeepsNewer procfs t changes pid fd buffer := by
  intro h
  have hkept := h (.answering logPath logFile) logTable (reinstalled ⟨8, 8, 1⟩) 100 5 closeBuffer
    closes_closeBuffer ⟨logPath, logFile⟩ ⟨longLogPath, ⟨8, 8, 1⟩⟩ get?_logTable
    (get?_reinstalled _ _) (by decide)
  rw [table_decodeBuffer_close _ closes_closeBuffer, Table.get?_erase, if_pos ⟨rfl, rfl⟩] at hkept
  cases hkept

end Tracepoint
