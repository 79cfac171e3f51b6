import Mathlib
import Tracepoint.Proofs.Descriptor.History
import Tracepoint.Proofs.Text.Lossy

/-!
# Paths that are told

Whenever the path of a descriptor is told, the file that it was recorded for is at that path.  The
record is that of the latest installation *that recorded*: one whose link could not be read, or led
to no path, leaves an older record in place, and the path of an earlier file is told.

* `Operation.Tells.entry` — a told path is that of the entry, and its file is there;
* `told_path` — what happened to a descriptor whose path is told, and when the path is fresh;
* `stale_path` — a path that is told is not always that of the latest installation.
-/

set_option autoImplicit false

namespace Tracepoint

/-! ## Texts of paths -/

/-- A text that is told as a path, and not in the place of one. -/
def IsPath (text : String) : Prop :=
  text ≠ unknownPath ∧ ∀ path, text ≠ (Resolution.deleted path).text

theorem isPath_of_slash {text : String} (h : text.toList.head? = some '/') : IsPath text := by
  constructor
  · rintro rfl
    exact absurd h (by decide)
  · rintro path rfl
    simp [Resolution.text] at h

theorem isPath_ofBytes {path : Bytes} (h : Path.isAbsolute path) : IsPath (Text.ofBytes path) :=
  isPath_of_slash ((Text.head?_ofBytes path).mpr h)

/-- A verdict tells a path only if the recorded file is still at the recorded path. -/
theorem Resolution.judge_of_isPath {before : Entry} {answer : Except IoError Identity}
    {now : Option Entry} (h : IsPath (judge before answer now).text) :
    answer = .ok before.identity ∧ (judge before answer now).text = Text.ofBytes before.path := by
  unfold judge at h ⊢
  cases answer with
  | ok identity =>
    simp only at h ⊢
    split_ifs at h ⊢ with hidentity hnow
    · exact ⟨by rw [hidentity], rfl⟩
    · exact absurd rfl h.1
    · exact absurd rfl h.1
  | error e =>
    simp only at h
    split_ifs at h
    · exact absurd rfl (h.2 _)
    · exact absurd rfl h.1

/-! ## Telling -/

/-- An operation tells `text` of a descriptor: it is asked for the path, or it decodes a syscall
that has the descriptor among its arguments. -/
inductive Operation.Tells (procfs : Procfs) (t : Table) (pid : Pid) (fd : Fd) (text : String) :
    Operation → Prop where
  | resolve (h : (Tracker.resolve procfs.alone t pid fd).value.text = text) :
      Tells procfs t pid fd text (.resolve pid fd)
  | decode {buffer : Bytes} {header : Header} {event : SyscallEvent} {arg : Arg}
      (h : (decodeBuffer procfs.alone t buffer).value = .ok ⟨header, .syscall event⟩)
      (hpid : header.process = pid) (harg : arg ∈ event.args)
      (hfd : arg.value.descriptor = fd) (hpath : arg.path? = some text) :
      Tells procfs t pid fd text (.decode buffer)

section Telling

variable {procfs : Procfs} {t : Table} {pid : Pid} {fd : Fd} {text : String}

theorem Tracker.entry_of_resolve (h : (Tracker.resolve procfs.alone t pid fd).value.text = text)
    (hpath : IsPath text) :
    ∃ entry, t.get? pid fd = some entry ∧ procfs.stat pid entry.path = .ok entry.identity ∧
      text = Text.ofBytes entry.path := by
  subst h
  unfold resolve at hpath ⊢
  cases hentry : t.get? pid fd with
  | none =>
    rw [hentry] at hpath
    exact absurd rfl hpath.1
  | some entry =>
    rw [hentry] at hpath
    exact ⟨entry, rfl, Resolution.judge_of_isPath hpath⟩

/-- Where the recorded file is, its path is told. -/
theorem Tracker.resolve_of_entry {entry : Entry} (hentry : t.get? pid fd = some entry)
    (hstat : procfs.stat pid entry.path = .ok entry.identity) :
    (Tracker.resolve procfs.alone t pid fd).value.text = Text.ofBytes entry.path := by
  have hsame : (some entry).any (Entry.same entry) := by simp [Entry.same, Path.same]
  unfold resolve
  simp only [hentry, Procfs.alone, id_eq, hstat, Resolution.judge, if_true, hsame]
  rfl

/-- The path that goes with an argument is the one that is told of its descriptor. -/
theorem SyscallEvent.path_resolveArgs_alone {pairs : List (Param DecoderType × Value)} {arg : Arg}
    (h : arg ∈ (resolveArgs procfs.alone pid t pairs).value) (hpath : arg.path? = some text) :
    (Tracker.resolve procfs.alone t pid arg.value.descriptor).value.text = text := by
  induction pairs with
  | nil => cases h
  | cons pair pairs ih =>
    obtain ⟨param, value⟩ := pair
    unfold resolveArgs at h
    split at h
    · simp only [Outcome.andThen, Outcome.map, Tracker.table_resolve_alone] at h
      rcases List.mem_cons.mp h with rfl | h
      · exact Option.some.inj hpath
      · exact ih h
    · rcases List.mem_cons.mp h with rfl | h
      · cases hpath
      · exact ih h

theorem Operation.Tells.resolve_text {op : Operation} (h : op.Tells procfs t pid fd text) :
    (Tracker.resolve procfs.alone t pid fd).value.text = text := by
  cases h with
  | resolve h => exact h
  | decode h hpid harg hfd hpath =>
    subst hpid hfd
    rw [decodeBuffer_eq] at h
    rcases Framed.value_decode_eq_ok h with ⟨-, hunknown⟩ | ⟨kind, payload, -, -, hevent⟩
    · cases hunknown
    · cases kind with
      | syscall call =>
        simp only [Event.decodeKind, Outcome.map, SyscallEvent.decode, Outcome.andThen,
          SyscallEvent.value_settle, Event.syscall.injEq] at hevent
        subst hevent
        exact SyscallEvent.path_resolveArgs_alone harg hpath
      | install => cases hevent
      | connectionV4 stage => cases hevent
      | connectionV6 stage => cases hevent

/-- **A told path is that of the entry, and the recorded file is there.** -/
theorem Operation.Tells.entry {op : Operation} (h : op.Tells procfs t pid fd text)
    (hpath : IsPath text) :
    ∃ entry, t.get? pid fd = some entry ∧ procfs.stat pid entry.path = .ok entry.identity ∧
      text = Text.ofBytes entry.path :=
  Tracker.entry_of_resolve h.resolve_text hpath

end Telling

/-! ## What happened to a descriptor whose path is told -/

/-- A path that is told is fresh if the latest touch of the descriptor is an installation whose
link was that path, for the file that is there now. -/
def Fresh (procfs : Procfs) (history : History) (pid : Pid) (fd : Fd) (text : String) : Prop :=
  ∃ link identity,
    (history.touches pid fd).getLast? = some (.installed (.ok link) identity) ∧
      text = Text.ofBytes link ∧ procfs.stat pid link = .ok identity

/-- An installation that records nothing does not make a path fresh. -/
theorem Fresh.recorded {procfs : Procfs} {history : History} {pid : Pid} {fd : Fd} {path : Bytes}
    (h : Fresh procfs history pid fd (Text.ofBytes path)) (habsolute : Path.isAbsolute path)
    {touch : Touch} (hlast : (history.touches pid fd).getLast? = some touch) :
    ¬ touch.Unrecorded := by
  obtain ⟨link, identity, hinstalled, htext, -⟩ := h
  rw [hlast, Option.some.injEq] at hinstalled
  subst hinstalled
  rintro ⟨-, hentry⟩
  have hlink : Path.isAbsolute link := by
    rwa [← Text.head?_ofBytes, ← htext, Text.head?_ofBytes]
  simp [Touch.recorded?, hlink] at hentry

/-- **What a told path says.**  After any history, a path that is told is the link that some
installation of the descriptor read, the file it was installed for is there now, and whatever
concerned the descriptor since is an installation that recorded nothing.  The path is fresh exactly
if there is none of those. -/
theorem told_path {history : History} {procfs : Procfs} {op : Operation} {pid : Pid} {fd : Fd}
    {text : String} (h : op.Tells procfs history.table pid fd text) (hpath : IsPath text) :
    ∃ link identity earlier missed,
      history.touches pid fd = earlier ++ .installed (.ok link) identity :: missed ∧
      Path.isAbsolute link ∧ text = Text.ofBytes link ∧ procfs.stat pid link = .ok identity ∧
      (∀ touch ∈ missed, touch.Unrecorded) ∧
      (Fresh procfs history pid fd text ↔ missed = []) := by
  obtain ⟨entry, hentry, hstat, rfl⟩ := h.entry hpath
  rw [History.get?_table] at hentry
  obtain ⟨earlier, missed, htouches, habsolute, hmissed⟩ := Touch.foldl_after_eq_some hentry
  refine ⟨entry.path, entry.identity, earlier, missed, htouches, habsolute, rfl, hstat, hmissed, ?_⟩
  constructor
  · intro hfresh
    by_contra hne
    have hlast : (history.touches pid fd).getLast? = some (missed.getLast hne) := by
      rw [htouches, List.getLast?_append, List.getLast?_cons, List.getLast?_eq_some_getLast hne]
      rfl
    exact hfresh.recorded habsolute hlast (hmissed _ (List.getLast_mem hne))
  · rintro rfl
    exact ⟨entry.path, entry.identity, by simp [htouches], rfl, hstat⟩

/-! ## A descriptor that is reused for a pipe -/

/-- Answers where every descriptor points at `link`, and one file is at every path. -/
def Procfs.answering (link : Bytes) (identity : Identity) : Procfs :=
  ⟨fun _ _ => .ok link, fun _ _ => .ok identity⟩

/-- The path `/tmp/log`. -/
def logPath : Bytes :=
  [0x2F, 0x74, 0x6D, 0x70, 0x2F, 0x6C, 0x6F, 0x67]

/-- The file at that path. -/
def logFile : Identity :=
  ⟨7, 8, 1⟩

/-- The link `pipe:[4026]`. -/
def pipeLink : Bytes :=
  [0x70, 0x69, 0x70, 0x65, 0x3A, 0x5B, 0x34, 0x30, 0x32, 0x36, 0x5D]

/-- A descriptor is installed for a file. -/
def installedLog : History :=
  [(.answering logPath logFile, .install 100 5 logFile)]

/-- The same descriptor is then installed for a pipe. -/
def reusedForPipe : History :=
  installedLog ++ [(.answering pipeLink logFile, .install 100 5 ⟨4026, 0, 14⟩)]

theorem touches_installedLog :
    installedLog.touches 100 5 = [.installed (.ok logPath) logFile] := by
  simp [installedLog, History.touches, Operation.touch?, Procfs.answering]

theorem touches_reusedForPipe :
    reusedForPipe.touches 100 5 =
      [.installed (.ok logPath) logFile, .installed (.ok pipeLink) ⟨4026, 0, 14⟩] := by
  simp [reusedForPipe, installedLog, History.touches, Operation.touch?, Procfs.answering]

/-- The path of the file is told as long as its entry is there, whatever the link has become. -/
theorem tells_logPath (history : History) (link : Bytes)
    (h : (history.touches 100 5).foldl Touch.after none = some ⟨logPath, logFile⟩) :
    (Operation.resolve 100 5).Tells (.answering link logFile) history.table 100 5
      (Text.ofBytes logPath) := by
  rw [← History.get?_table] at h
  exact .resolve (Tracker.resolve_of_entry h rfl)

theorem told_logPath :
    (Operation.resolve 100 5).Tells (.answering logPath logFile) installedLog.table 100 5
        (Text.ofBytes logPath) ∧
      IsPath (Text.ofBytes logPath) ∧
      ∃ link identity earlier missed,
        installedLog.touches 100 5 = earlier ++ .installed (.ok link) identity :: missed ∧
        Path.isAbsolute link ∧ Text.ofBytes logPath = Text.ofBytes link ∧
        (Procfs.answering logPath logFile).stat 100 link = .ok identity ∧
        (∀ touch ∈ missed, touch.Unrecorded) ∧
        (Fresh (.answering logPath logFile) installedLog 100 5 (Text.ofBytes logPath) ↔
          missed = []) := by
  have htells := tells_logPath installedLog logPath (by
    rw [touches_installedLog]
    rfl)
  have hpath : IsPath (Text.ofBytes logPath) := isPath_ofBytes rfl
  exact ⟨htells, hpath, told_path htells hpath⟩

/-- **A path that is told is not always fresh**: it survives the reuse of its descriptor for a
pipe. -/
theorem stale_path :
    ¬ ∀ (history : History) (procfs : Procfs) (op : Operation) (pid : Pid) (fd : Fd)
        (text : String), op.Tells procfs history.table pid fd text → IsPath text →
          Fresh procfs history pid fd text := by
  intro h
  have htells := tells_logPath reusedForPipe pipeLink (by
    rw [touches_reusedForPipe]
    rfl)
  obtain ⟨link, identity, hlast, htext, -⟩ := h _ _ _ _ _ _ htells (isPath_ofBytes rfl)
  rw [touches_reusedForPipe, List.getLast?_cons_cons, List.getLast?_singleton, Option.some.injEq,
    Touch.installed.injEq, Except.ok.injEq] at hlast
  rw [← hlast.1] at htext
  exact absurd htext (by decide)

end Tracepoint
