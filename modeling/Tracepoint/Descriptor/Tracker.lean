import Tracepoint.Descriptor.Procfs
import Tracepoint.Text.Quoted

/-!
# Tracking descriptors

Installing a descriptor records which file it points at; resolving it tells the path of that file,
as long as the file is still the one there.  The table is not held while a question is answered:
others may change it meanwhile, so it is looked at again before a path is told.
-/

set_option autoImplicit false

namespace Tracepoint

/-- What stands for a path that cannot be trusted. -/
def unknownPath : String := "unknown"

/-! ## Installing -/

/-- How an installation ends. -/
inductive Installed where
  /-- The descriptor points at a path that is recorded. -/
  | tracked (path : Bytes)
  /-- The descriptor points at something without a path. -/
  | untracked (link : Bytes)
  /-- It could not be read where the descriptor points. -/
  | unreadable (error : IoError)
  deriving DecidableEq, Repr

namespace Installed

/-- What is made of the answer to where a descriptor points. -/
def ofLink : Except IoError Bytes → Installed
  | .ok link => if Path.isAbsolute link then .tracked link else .untracked link
  | .error e => .unreadable e

/-- What is told of an installation. -/
def text : Installed → String
  | .tracked path => Text.ofBytes path
  | .untracked link => Text.ofBytes link
  | .unreadable _ => unknownPath

/-- What is logged of an installation. -/
def log (pid : Pid) (fd : Fd) : Installed → List LogLine
  | .tracked _ => []
  | .untracked link =>
    [⟨.trace, s!"Not tracking fd {fd.toNat} of pid {pid.toNat}: {Text.ofBytes link}"⟩]
  | .unreadable e =>
    [⟨.debug, s!"Could not read link for fd {fd.toNat} of pid {pid.toNat}: {e.text}"⟩]

/-- What an installation does to the table. -/
def record (identity : Identity) (pid : Pid) (fd : Fd) (t : Table) : Installed → Table
  | .tracked path => t.put pid fd ⟨path, identity⟩
  | _ => t

end Installed

/-! ## Resolving -/

/-- What is found out about the path of a descriptor. -/
inductive Resolution where
  /-- Nothing is recorded about the descriptor. -/
  | untracked
  /-- The recorded file is at the recorded path. -/
  | current (path : Bytes)
  /-- It is, but the record has changed meanwhile. -/
  | changed (path : Bytes)
  /-- Another file is at the recorded path. -/
  | stale (path : Bytes) (now : Identity)
  /-- No file is at the recorded path. -/
  | deleted (path : Bytes)
  /-- It could not be found out. -/
  | unreadable (path : Bytes) (error : IoError)
  deriving DecidableEq, Repr

namespace Resolution

/-- The verdict on the entry that was recorded when the question was asked, given the answer and
the entry that is recorded when it arrives. -/
def judge (before : Entry) (answer : Except IoError Identity) (after : Option Entry) :
    Resolution :=
  match answer with
  | .ok now =>
    if now = before.identity then
      if after.any (Entry.same before) then .current before.path else .changed before.path
    else .stale before.path now
  | .error e =>
    if e.kind = .notFound then .deleted before.path else .unreadable before.path e

/-- What is told of the path of a descriptor. -/
def text : Resolution → String
  | .current path => Text.ofBytes path
  | .deleted path => "[deleted] (" ++ Text.Quoted.quote (Text.ofBytes path) ++ ")?"
  | _ => unknownPath

/-- What is logged of a resolution. -/
def log (pid : Pid) (fd : Fd) : Resolution → List LogLine
  | .untracked | .current _ | .deleted _ => []
  | .changed path =>
    [⟨.debug, s!"fd {fd.toNat} of pid {pid.toNat} changed while resolving {Text.ofBytes path}"⟩]
  | .stale path now =>
    [⟨.debug, s!"fd {fd.toNat} of pid {pid.toNat} went stale: {Text.ofBytes path} is now " ++
      s!"{now.major.toNat}:{now.minor.toNat}/{now.ino.toNat}"⟩]
  | .unreadable path e =>
    [⟨.debug, s!"Could not stat {Text.ofBytes path} for pid {pid.toNat}: {e.text}"⟩]

end Resolution

/-! ## The tracker -/

namespace Tracker

/-- A descriptor was installed for the file of the given identity. -/
def install (procfs : Procfs) (t : Table) (pid : Pid) (fd : Fd) (identity : Identity) :
    Outcome Installed :=
  let installed := Installed.ofLink (procfs.readlink pid fd)
  ⟨installed, installed.record identity pid fd t, [.readlink pid fd], installed.log pid fd⟩

/-- The path behind a descriptor. -/
def resolve (s : Surroundings) (t : Table) (pid : Pid) (fd : Fd) : Outcome Resolution :=
  match t.get? pid fd with
  | none => Outcome.pure t .untracked
  | some before =>
    let after := s.meanwhile t
    let resolution :=
      Resolution.judge before (s.procfs.stat pid before.path) (after.get? pid fd)
    ⟨resolution, after, [.stat pid before.path], resolution.log pid fd⟩

/-- A descriptor was closed. -/
def forget (t : Table) (pid : Pid) (fd : Fd) : Outcome Unit :=
  Outcome.pure (t.erase pid fd) ()

/-- A process is gone. -/
def processExited (t : Table) (pid : Pid) : Outcome Unit :=
  Outcome.pure (t.eraseProcess pid) ()

end Tracker

end Tracepoint
