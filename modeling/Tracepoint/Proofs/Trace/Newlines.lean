import Mathlib
import Tracepoint.Proofs.Descriptor.Subject
import Tracepoint.Proofs.Text.Newlines
import Tracepoint.Proofs.Trace.Writer

/-!
# How many lines an event takes

A trace line ends in the newline of its layout.  What is shown in it is free of newlines, with two
exceptions: the name of an event without a decoder, and the path of a file that is there, which
are shown as they are.

* `Line.count_newline_text` — the newlines of a line are those of its layout and of its parts;
* `Event.newlines_namedArgs` — of the arguments, only paths can hold any;
* `newlines_of_shown` — such a path is the link of an installed descriptor, or recorded of one;
* `line_contract` — so an event takes one line exactly if its name and its paths are on one line;
* `second_line` — a link with a newline takes a second line.
-/

set_option autoImplicit false

namespace Tracepoint

open Text

/-! ## Lines -/

namespace Trace

/-- The newlines of the layout of a line with so many arguments. -/
def Style.newlines : Style → Nat → Nat
  | .oneLine, _ => 1
  | .multiLine, args => args + 3

theorem count_newline_intercalate {separator : Bytes} (h : separator.count newline = 0)
    (pieces : List Bytes) :
    (separator.intercalate pieces).count newline = (pieces.map (List.count newline)).sum := by
  induction pieces with
  | nil => rfl
  | cons piece pieces ih =>
    by_cases hnil : pieces = []
    · subst hnil
      simp
    · rw [List.intercalate_cons_of_ne_nil hnil, List.count_append, List.count_append, h, ih,
        List.map_cons, List.sum_cons, Nat.add_zero]

theorem newlines_returnText (syscall : String) (ret : Int64) :
    newlines (returnText syscall ret) = 0 := by
  have hremark : ∀ (kind : ReturnKind) (i : Int), newlines (kind.remark i) = 0 := by
    intro kind i
    cases kind <;> rw [ReturnKind.remark] <;> split <;> decide
  rw [returnText, newlines_append, hremark]
  exact newlines_intRepr _

/-- **The newlines of a line** are those of its layout, and those of what it shows. -/
theorem Line.count_newline_text (style : Style) (line : Line) :
    (line.text style).count newline =
      style.newlines line.args.length + newlines line.name +
        (line.args.map (List.count newline)).sum + (line.suffix?.getD []).count newline := by
  have hreturn := newlines_returnText line.name line.ret
  have hpid : newlines (toString line.pid.toNat) = 0 := newlines_repr _
  have hbreak : newlines "\n" = 1 := by decide
  have hopen : newlines "(" = 0 := by decide
  cases style with
  | oneLine =>
    have hblank : newlines " " = 0 := by decide
    have hclose : newlines ") = " = 0 := by decide
    have hcomma : (toBytes ", ").count newline = 0 := by decide
    simp only [text, List.count_append, count_newline_toBytes, count_newline_intercalate hcomma,
      hpid, hreturn, hbreak, hopen, hblank, hclose, Style.newlines]
    omega
  | multiLine =>
    have htab : newlines "\n\t" = 1 := by decide
    have hindent : (toBytes "\n\t    ").count newline = 1 := by decide
    have hclose : newlines "\n\t) = " = 1 := by decide
    have hcomma : (toBytes ",").count newline = 0 := by decide
    have hargs : ((line.args.map (toBytes "\n\t    " ++ ·)).map (List.count newline)).sum =
        line.args.length + (line.args.map (List.count newline)).sum := by
      induction line.args with
      | nil => rfl
      | cons arg args ih =>
        simp only [List.map_cons, List.sum_cons, List.length_cons, ih, List.count_append, hindent]
        omega
    simp only [text, List.count_append, count_newline_toBytes, count_newline_intercalate hcomma,
      hpid, hreturn, hbreak, hopen, htab, hclose, hargs, Style.newlines]
    omega

end Trace

/-! ## Events -/

/-- The path that an argument is shown with. -/
def Arg.shownPath? (arg : Arg) : Option String :=
  match arg.value with
  | .int _ => arg.path?
  | .bytes _ => none

/-- The paths that an event is shown with. -/
def Event.shownPaths : Event → List String
  | .syscall e => e.args.filterMap Arg.shownPath?
  | .install e => [e.path]
  | .connectionV4 _ | .connectionV6 _ | .unknown => []

/-- An argument is shown with its name. -/
theorem newlines_labelled (name value : String) :
    newlines (name ++ ": " ++ value) = newlines name + newlines value := by
  have hcolon : newlines ": " = 0 := by decide
  rw [newlines_append, newlines_append, hcolon, Nat.add_zero]

/-- A descriptor is shown with its path. -/
theorem newlines_angled (fd path : String) :
    newlines (fd ++ "<" ++ path ++ ">") = newlines fd + newlines path := by
  have hopen : newlines "<" = 0 := by decide
  have hclose : newlines ">" = 0 := by decide
  rw [newlines_append, newlines_append, newlines_append, hopen, hclose]
  rfl

/-- A buffer is quoted and a number has no newlines: what is left is the path. -/
theorem Arg.newlines_displayed (policy : BufferPolicy) (ret : Int64) (arg : Arg) :
    newlines (arg.displayed policy ret) = (arg.shownPath?.toList.map newlines).sum := by
  obtain ⟨param, value, path?⟩ := arg
  cases value with
  | bytes b => exact newlines_quote _
  | int i =>
    cases path? with
    | none => exact newlines_intRepr i
    | some path => simp [-newlines_append, displayed, Arg.text, shownPath?, newlines_angled]

theorem Arg.newlines_named (policy : BufferPolicy) (ret : Int64) {args : List Arg}
    (h : ∀ arg ∈ args, newlines arg.param.name = 0) :
    (args.map fun arg => newlines (arg.param.name ++ ": " ++ arg.displayed policy ret)).sum =
      ((args.filterMap shownPath?).map newlines).sum := by
  induction args with
  | nil => rfl
  | cons arg args ih =>
    obtain ⟨hname, hrest⟩ := List.forall_mem_cons.mp h
    rw [List.map_cons, List.sum_cons, ih hrest, newlines_labelled, hname, newlines_displayed,
      List.filterMap_cons]
    cases arg.shownPath? <;> simp

/-- The names of the fields of traced syscalls. -/
theorem Traced.newlines_params :
    ∀ call ∈ all, ∀ p ∈ call.params, newlines p.name = 0 := by
  decide +kernel

theorem Kind.newlines_name : ∀ kind ∈ all, newlines kind.name = 0 := by
  decide +kernel

theorem Connection.newlines_namedArgs {α : Type} {address : α → String}
    (h : ∀ a, newlines (address a) = 0) (c : Connection α) :
    ((c.namedArgs address).map fun arg => newlines (arg.1 ++ ": " ++ arg.2)).sum = 0 := by
  have hnames : ∀ name ∈ Kind.connectionFields, newlines name = 0 := by decide +kernel
  simp only [Kind.connectionFields, List.forall_mem_cons, List.not_mem_nil] at hnames
  simp [-newlines_append, namedArgs, newlines_labelled, h, hnames]

/-- The fields of an event have names without newlines. -/
def Event.PlainNames : Event → Prop
  | .syscall e => ∀ arg ∈ e.args, newlines arg.param.name = 0
  | _ => True

/-- **Of the arguments of an event, only paths can hold newlines.** -/
theorem Event.newlines_namedArgs {event : Event} (h : event.PlainNames) (ret : Int64) :
    ((event.namedArgs ret).map fun arg => newlines (arg.1 ++ ": " ++ arg.2)).sum =
      (event.shownPaths.map newlines).sum := by
  cases event with
  | syscall e =>
    simp only [namedArgs, SyscallEvent.namedArgs, List.map_map]
    exact Arg.newlines_named e.syscall.policy ret h
  | install e =>
    have hname : newlines "fd" = 0 := by decide
    simp [-newlines_append, namedArgs, shownPaths, newlines_labelled, newlines_angled, hname]
  | connectionV4 c => exact Connection.newlines_namedArgs Ipv4.newlines_text c
  | connectionV6 c => exact Connection.newlines_namedArgs Ipv6.newlines_text c
  | unknown => rfl

/-! ## Paths -/

@[simp] theorem newlines_unknownPath : newlines unknownPath = 0 := by
  decide

/-- Of what a lookup can end in, only the path of a file that is there is told as it is. -/
theorem Resolution.newlines_text_ne_zero {r : Resolution} (h : newlines r.text ≠ 0) :
    ∃ path, r = .current path := by
  cases r with
  | current path => exact ⟨path, rfl⟩
  | deleted path =>
    have hopen : newlines "[deleted] (" = 0 := by decide
    have hclose : newlines ")?" = 0 := by decide
    simp [text, hopen, hclose] at h
  | untracked => exact absurd newlines_unknownPath h
  | changed path => exact absurd newlines_unknownPath h
  | stale path now => exact absurd newlines_unknownPath h
  | unreadable path e => exact absurd newlines_unknownPath h

/-- A path that is told is recorded, and its file is there. -/
theorem Tracker.recorded_of_current {s : Surroundings} {t : Table} {pid : Pid} {fd : Fd}
    {path : Bytes} (h : (resolve s t pid fd).value = .current path) :
    ∃ entry, t.get? pid fd = some entry ∧ entry.path = path ∧
      s.procfs.stat pid path = .ok entry.identity := by
  unfold resolve at h
  cases hentry : t.get? pid fd with
  | none =>
    rw [hentry] at h
    cases h
  | some entry =>
    rw [hentry] at h
    simp only [Resolution.judge] at h
    cases hanswer : s.procfs.stat pid entry.path with
    | error e =>
      rw [hanswer] at h
      simp only at h
      split at h <;> cases h
    | ok identity =>
      rw [hanswer] at h
      simp only at h
      split_ifs at h with hidentity hsame
      cases h
      exact ⟨entry, rfl, rfl, by rw [hanswer, hidentity]⟩

/-- Only the first parameter of a traced syscall goes with a path. -/
theorem Traced.needsPath_tail : ∀ call ∈ all, ∀ p ∈ call.params.tail, ¬ p.needsPath := by
  decide

namespace SyscallEvent

variable {s : Surroundings} {t : Table} {pid : Pid}

/-- Where only the first field goes with a path, it is looked up in the table as it is. -/
theorem path_of_resolveArgs {pairs : List (Param DecoderType × Value)}
    (htail : ∀ pair ∈ pairs.tail, ¬ pair.1.needsPath) {arg : Arg} {path : String}
    (harg : arg ∈ (resolveArgs s pid t pairs).value) (hpath : arg.path? = some path) :
    (arg.param, arg.value) ∈ pairs ∧ arg.param.needsPath ∧
      path = (Tracker.resolve s t pid arg.value.descriptor).value.text := by
  cases pairs with
  | nil => cases harg
  | cons pair rest =>
    obtain ⟨param, value⟩ := pair
    have hplain : ∀ u, resolveArgs s pid u rest = Outcome.pure u _ :=
      fun u => resolveArgs_plain s u htail
    rw [resolveArgs] at harg
    split at harg
    · rename_i hneeds
      simp only [Outcome.andThen, Outcome.map, hplain, Outcome.pure] at harg
      rcases List.mem_cons.mp harg with rfl | harg
      · cases hpath
        exact ⟨List.mem_cons_self, hneeds, rfl⟩
      · obtain ⟨_, -, rfl⟩ := List.mem_map.mp harg
        cases hpath
    · simp only [Outcome.map, hplain, Outcome.pure] at harg
      rcases List.mem_cons.mp harg with rfl | harg
      · cases hpath
      · obtain ⟨_, -, rfl⟩ := List.mem_map.mp harg
        cases hpath

end SyscallEvent

/-- Where the bytes come from of a path that an event shows as it is: the link of the descriptor
that was installed, or the entry of the descriptor of a syscall, with the file still there. -/
inductive ShownFrom (s : Surroundings) (t : Table) (pid : Pid) (fd : Fd) (path : Bytes) :
    Event → Prop
  | link (event : InstallEvent) (h : s.procfs.readlink pid fd = .ok path) :
    ShownFrom s t pid fd path (.install event)
  | entry (event : SyscallEvent) (identity : Identity)
    (held : t.get? pid fd = some ⟨path, identity⟩)
    (current : s.procfs.stat pid path = .ok identity) : ShownFrom s t pid fd path (.syscall event)

theorem Installed.bytes_of_newlines {answer : Except IoError Bytes}
    (h : newlines (ofLink answer).text ≠ 0) :
    ∃ link, answer = .ok link ∧ (ofLink answer).text = ofBytes link := by
  cases answer with
  | error e => exact absurd newlines_unknownPath h
  | ok link =>
    refine ⟨link, rfl, ?_⟩
    rw [ofLink]
    split <;> rfl

variable {s : Surroundings} {t : Table} {buffer : Bytes} {d : DecodedEvent}

theorem Event.plainNames_decoded (h : (decodeBuffer s t buffer).value = .ok d) :
    d.event.PlainNames := by
  rw [decodeBuffer_eq] at h
  rcases Framed.value_decode_eq_ok h with ⟨-, he⟩ | ⟨kind, payload, hframed, -, he⟩
  · rw [he]
    trivial
  · have hkind := (Framed.ofBuffer_eq_record.mp hframed).2.2.2.1.1
    rw [he]
    cases kind with
    | syscall call =>
      intro arg (harg : arg ∈ (SyscallEvent.decode s t _ call payload).1.value.args)
      have hpair := SyscallEvent.args_resolveArgs s d.header.process t
        (call.params.zip (call.layout.read payload).1)
      rw [SyscallEvent.value_decode] at harg
      have hmem := List.mem_map_of_mem (f := fun arg : Arg => (arg.param, arg.value)) harg
      rw [hpair] at hmem
      exact Traced.newlines_params call (Kind.syscall_mem.mp hkind) _ (List.of_mem_zip hmem).1
    | install => trivial
    | connectionV4 stage => trivial
    | connectionV6 stage => trivial

/-- **Where a newline in a path comes from**: the bytes of a link or of a recorded path have it. -/
theorem newlines_of_shown (h : (decodeBuffer s t buffer).value = .ok d) {path : String}
    (hpath : path ∈ d.event.shownPaths) (hne : newlines path ≠ 0) :
    ∃ fd bytes, d.event.descriptor? = some fd ∧ path = ofBytes bytes ∧
      ShownFrom s t d.header.process fd bytes d.event := by
  rw [decodeBuffer_eq] at h
  rcases Framed.value_decode_eq_ok h with ⟨-, he⟩ | ⟨kind, payload, hframed, -, he⟩
  · rw [he] at hpath
    cases hpath
  · have hkind := (Framed.ofBuffer_eq_record.mp hframed).2.2.2.1.1
    have hdescriptor := Event.descriptor?_decodeKind s t d.header.process payload kind
    rw [he] at hpath ⊢
    rw [hdescriptor]
    cases kind with
    | syscall call =>
      have hcall := Kind.syscall_mem.mp hkind
      obtain ⟨arg, harg, hshown⟩ := List.mem_filterMap.mp hpath
      change arg ∈ (SyscallEvent.decode s t _ call payload).1.value.args at harg
      rw [SyscallEvent.value_decode] at harg
      have hpath? : arg.path? = some path := by
        unfold Arg.shownPath? at hshown
        split at hshown
        · exact hshown
        · cases hshown
      have htail : ∀ pair ∈ (call.params.zip (call.layout.read payload).1).tail,
          ¬ pair.1.needsPath := by
        intro pair hpair
        rw [List.tail_zip] at hpair
        exact Traced.needsPath_tail call hcall _ (List.of_mem_zip hpair).1
      obtain ⟨hpair, hneeds, rfl⟩ := SyscallEvent.path_of_resolveArgs htail harg hpath?
      obtain ⟨bytes, hcurrent⟩ := Resolution.newlines_text_ne_zero hne
      obtain ⟨⟨_, identity⟩, hheld, rfl, hstat⟩ := Tracker.recorded_of_current hcurrent
      refine ⟨arg.value.descriptor, _, SyscallEvent.descriptor_of_needsPath hcall hpair hneeds, ?_,
        .entry _ identity hheld hstat⟩
      rw [hcurrent]
      rfl
    | install =>
      obtain rfl := List.mem_singleton.mp hpath
      obtain ⟨link, hlink, htext⟩ := Installed.bytes_of_newlines hne
      exact ⟨_, link, Kind.descriptor?_install payload, htext, .link _ hlink⟩
    | connectionV4 stage => cases hpath
    | connectionV6 stage => cases hpath

/-! ## Events on lines of their own -/

/-- The name of an event and its paths are on one line each. -/
def DecodedEvent.Unbroken (d : DecodedEvent) : Prop :=
  newlines d.header.name = 0 ∧ ∀ path ∈ d.event.shownPaths, newlines path = 0

/-- What a trace line promises about a decoded event, and a writer that keeps accepting. -/
structure LineContract (s : Surroundings) (t : Table) (d : DecodedEvent) {σ : Type}
    (w : Trace.Writer σ) (style : Trace.Style) (state : σ) : Prop where
  /-- All of the line is written, and it ends in a newline. -/
  whole : (w.writeEvent style state d).error? = none ∧
    (w.writeEvent style state d).accepted = (Trace.Line.ofEvent d).text style ∧
    (w.writeEvent style state d).accepted.getLast? = some newline
  /-- Its newlines are those of the layout, of the name and of the paths. -/
  count : (w.writeEvent style state d).accepted.count newline =
    style.newlines d.namedArgs.length + newlines d.header.name +
      (d.event.shownPaths.map newlines).sum
  /-- There are no others exactly if the name and the paths have none. -/
  layout_iff : (w.writeEvent style state d).accepted.count newline =
    style.newlines d.namedArgs.length ↔ d.Unbroken
  /-- An event with a decoder has a name on one line. -/
  named : ∀ kind ∈ Kind.all, kind.name = d.header.name → newlines d.header.name = 0
  /-- A path has a newline only if there is one in the link or in the recorded path. -/
  paths : ∀ path ∈ d.event.shownPaths, newlines path ≠ 0 →
    ∃ fd bytes, d.event.descriptor? = some fd ∧ path = ofBytes bytes ∧ newline ∈ bytes ∧
      ShownFrom s t d.header.process fd bytes d.event

namespace Trace.Line

theorem getLast?_text (style : Style) (line : Line) :
    (line.text style).getLast? = some newline := by
  have hlast : (toBytes "\n").getLast? = some newline := by decide
  cases style <;> simp [text, List.getLast?_append, hlast]

theorem count_newline_event {d : DecodedEvent} (h : d.event.PlainNames) (style : Style) :
    ((ofEvent d).text style).count newline =
      style.newlines d.namedArgs.length + newlines d.header.name +
        (d.event.shownPaths.map newlines).sum := by
  have hargs := Event.newlines_namedArgs h d.header.ret
  rw [count_newline_text]
  simp only [ofEvent, List.length_map, List.map_map, Option.getD_none, List.count_nil, Nat.add_zero]
  rw [← hargs]
  congr 3
  funext arg
  exact count_newline_toBytes _

end Trace.Line

/-- **One trace line per event**, as long as its name and its paths are on one line.  Whatever a
buffer holds, the newlines written for it are those of the layout, and those in the name of an
event without a decoder, in the link of an installed descriptor, and in the recorded path of a file
that is there. -/
theorem line_contract (h : (decodeBuffer s t buffer).value = .ok d) {σ : Type}
    {w : Trace.Writer σ} (hw : w.Accepts) (style : Trace.Style) (state : σ) :
    LineContract s t d w style state := by
  obtain ⟨haccepted, herror⟩ := Trace.Writer.writeEvent_accepted hw style state d
  have hcount := Trace.Line.count_newline_event (Event.plainNames_decoded h) style
  rw [← haccepted] at hcount
  refine ⟨⟨herror, haccepted, ?_⟩, hcount, ?_, ?_, ?_⟩
  · rw [haccepted, Trace.Line.getLast?_text]
  · rw [hcount, DecodedEvent.Unbroken]
    have hsum := List.sum_eq_zero_iff (l := d.event.shownPaths.map newlines)
    rw [List.forall_mem_map] at hsum
    rw [← hsum]
    omega
  · intro kind hkind hname
    rw [← hname]
    exact Kind.newlines_name kind hkind
  · intro path hpath hne
    obtain ⟨fd, bytes, hfd, rfl, hfrom⟩ := newlines_of_shown h hpath hne
    refine ⟨fd, bytes, hfd, rfl, ?_, hfrom⟩
    rw [newlines_ofBytes] at hne
    exact List.count_pos_iff.mp (Nat.pos_of_ne_zero hne)

/-- Answers by which every descriptor points at the same file. -/
def pointingAt (link : Bytes) : Procfs :=
  ⟨fun _ _ => .ok link, fun _ _ => .ok ⟨7, 8, 1⟩⟩

/-- The header of an installation. -/
def installHeader : Header := ⟨1, 100, 0, "fd_install"⟩

/-- The record of an installation of descriptor 5. -/
def installRecord : Bytes :=
  Kind.install.encode installHeader [.int 5, .int 7, .int 8, .int 1]

/-- What the record is decoded to. -/
def installed (link : Bytes) : DecodedEvent :=
  ⟨installHeader, .install ⟨5, ⟨7, 8, 1⟩, ofBytes link⟩⟩

theorem decode_installRecord (link : Bytes) :
    (decodeBuffer (pointingAt link).alone .empty installRecord).value = .ok (installed link) := by
  have hframed : Framed.ofBuffer installRecord = .record installHeader .install
      (Kind.installLayout.encode [.int 5, .int 7, .int 8, .int 1]) := by
    decide +kernel
  have htext : (Installed.ofLink (.ok link)).text = ofBytes link := by
    rw [Installed.ofLink]
    split <;> rfl
  rw [decodeBuffer_eq, hframed, installed, ← htext]
  rfl

/-- The link `/log`. -/
def plainLink : Bytes :=
  [0x2F, 0x6C, 0x6F, 0x67]

/-- A link without newlines takes one line in one style, and four in the other. -/
theorem line_plainLink :
    let writer := Trace.Writer.whole
    (decodeBuffer (pointingAt plainLink).alone .empty installRecord).value =
        .ok (installed plainLink) ∧
      writer.Accepts ∧
      LineContract (pointingAt plainLink).alone .empty (installed plainLink) writer .oneLine () ∧
      (writer.writeEvent .oneLine () (installed plainLink)).accepted.count newline = 1 ∧
      (writer.writeEvent .multiLine () (installed plainLink)).accepted.count newline = 4 := by
  intro writer
  have h := decode_installRecord plainLink
  have hw : writer.Accepts := Trace.Writer.accepts_whole
  have hone := line_contract h hw .oneLine ()
  have hmulti := line_contract h hw .multiLine ()
  have hunbroken : (installed plainLink).Unbroken := by
    refine ⟨Kind.newlines_name .install (by decide), ?_⟩
    intro path hpath
    obtain rfl := List.mem_singleton.mp hpath
    rw [newlines_ofBytes]
    decide
  exact ⟨h, hw, hone, hone.layout_iff.mpr hunbroken, hmulti.layout_iff.mpr hunbroken⟩

/-- The link `/tmp/a`, a newline, `b`. -/
def brokenLink : Bytes :=
  [0x2F, 0x74, 0x6D, 0x70, 0x2F, 0x61, 0x0A, 0x62]

/-- **An event does not always take one line**: a link with a newline in it takes two. -/
theorem second_line :
    ¬ ∀ (history : History) (procfs : Procfs) (buffer : Bytes) (d : DecodedEvent) (σ : Type)
        (w : Trace.Writer σ) (state : σ),
        (decodeBuffer procfs.alone history.table buffer).value = .ok d → w.Accepts →
          (w.writeEvent .oneLine state d).accepted.count newline = 1 := by
  intro h
  have hw := Trace.Writer.accepts_whole
  have hline := h [] (pointingAt brokenLink) installRecord (installed brokenLink) Unit
    Trace.Writer.whole () (decode_installRecord brokenLink) hw
  have hplain : (installed brokenLink).event.PlainNames := trivial
  have hname : newlines (installed brokenLink).header.name = 0 :=
    Kind.newlines_name .install (by decide)
  have hpath : ((installed brokenLink).event.shownPaths.map newlines).sum = 1 := by
    show newlines (ofBytes brokenLink) + 0 = 1
    rw [newlines_ofBytes]
    decide
  rw [(Trace.Writer.writeEvent_accepted hw _ _ _).1, Trace.Line.count_newline_event hplain, hname,
    hpath] at hline
  exact absurd hline (by decide)

end Tracepoint
