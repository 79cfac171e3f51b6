import Tracepoint.Descriptor.Table
import Tracepoint.IoError
import Tracepoint.Log
import Tracepoint.Text.Utf8

/-!
# Looking at processes

Two questions about a process can be asked: where a descriptor points, and which file is at a path
as the process sees it.  The answers come from a directory with one directory per process.
-/

set_option autoImplicit false

namespace Tracepoint

/-- The answers to questions about processes. -/
structure Procfs where
  /-- Where a descriptor points. -/
  readlink : Pid → Fd → Except IoError Bytes
  /-- The file at a path, as seen from the root of a process. -/
  stat : Pid → Bytes → Except IoError Identity

/-- A question about a process. -/
inductive Query where
  | readlink (pid : Pid) (fd : Fd)
  | stat (pid : Pid) (path : Bytes)
  deriving DecidableEq, Repr

/-- What decoding depends on besides the table. -/
structure Surroundings where
  procfs : Procfs
  /-- What others do to the table between a question about a path and its answer. -/
  meanwhile : Table → Table

/-- What an operation yields, leaves behind, asks and logs. -/
structure Outcome (α : Type) where
  value : α
  table : Table
  asked : List Query
  log : List LogLine

namespace Outcome

variable {α β : Type}

/-- Nothing but a value: the table stays, and nothing is asked. -/
def pure (table : Table) (value : α) : Outcome α :=
  ⟨value, table, [], []⟩

/-- The value changed, all else kept. -/
def map (f : α → β) (o : Outcome α) : Outcome β :=
  ⟨f o.value, o.table, o.asked, o.log⟩

/-- One operation after another, on the table that the first one leaves. -/
def andThen (o : Outcome α) (next : α → Table → Outcome β) : Outcome β :=
  let n := next o.value o.table
  ⟨n.value, n.table, o.asked ++ n.asked, o.log ++ n.log⟩

end Outcome

/-! ## Places in the directory of processes -/

namespace Procfs

/-- Where processes are looked up unless told otherwise. -/
def defaultRoot : Bytes :=
  Text.toBytes "/proc"

/-- The directory of a process. -/
def processPath (root : Bytes) (pid : Pid) : Bytes :=
  Path.join root (Text.toBytes (toString pid.toNat))

/-- The link that tells where a descriptor points. -/
def linkPath (root : Bytes) (pid : Pid) (fd : Fd) : Bytes :=
  Path.join (Path.join (processPath root pid) (Text.toBytes "fd"))
    (Text.toBytes (toString fd.toNat))

/-- A path as a process sees it.  The path is taken from the root of the process, never from that
of the machine. -/
def filePath (root : Bytes) (pid : Pid) (path : Bytes) : Bytes :=
  Path.join (Path.join (processPath root pid) (Text.toBytes "root")) (Path.belowRoot path)

end Procfs

end Tracepoint
