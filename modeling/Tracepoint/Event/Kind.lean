import Tracepoint.Traced

/-!
# Kinds of events

The name in the header of a captured buffer says what the buffer is about: one of the traced
syscalls, a descriptor that was installed, or a step in the life of a connection.
-/

set_option autoImplicit false

namespace Tracepoint

/-- A step in the life of a connection. -/
inductive Stage where
  | connect
  | accept
  | close
  deriving DecidableEq, Repr

namespace Stage

/-- All steps. -/
def all : List Stage := [.connect, .accept, .close]

/-- The name of a step. -/
def name : Stage → String
  | .connect => "connect"
  | .accept => "accept"
  | .close => "close"

/-- The event of a step of an IPv4 connection. -/
def nameV4 (stage : Stage) : String :=
  stage.name ++ "_v4"

/-- The event of a step of an IPv6 connection. -/
def nameV6 (stage : Stage) : String :=
  stage.name ++ "_v6"

end Stage

/-- A kind of event with a decoder. -/
inductive Kind where
  | syscall (syscall : Syscall DecoderType)
  | install
  | connectionV4 (stage : Stage)
  | connectionV6 (stage : Stage)
  deriving DecidableEq, Repr

namespace Kind

/-- All kinds. -/
def all : List Kind :=
  Traced.all.map .syscall ++ [.install] ++ Stage.all.map .connectionV4 ++
    Stage.all.map .connectionV6

/-- The name that headers have for a kind. -/
def name : Kind → String
  | .syscall s => s.name
  | .install => "fd_install"
  | .connectionV4 stage => stage.nameV4
  | .connectionV6 stage => stage.nameV6

/-- The layout of the payload of an installed descriptor: descriptor, inode, device. -/
def installLayout : Layout :=
  [.int 8 false, .int 8 false, .int 8 false, .int 8 false]

/-- The layout of the payload of an IPv4 connection: addresses, ports, network namespace. -/
def connectionV4Layout : Layout :=
  [.int 4 false, .int 4 false, .int 2 false, .int 2 false, .int 4 false]

/-- The layout of the payload of an IPv6 connection. -/
def connectionV6Layout : Layout :=
  [.block 16, .block 16, .int 2 false, .int 2 false, .int 4 false]

/-- The layout of the payload of a kind. -/
def layout : Kind → Layout
  | .syscall s => s.layout
  | .install => installLayout
  | .connectionV4 _ => connectionV4Layout
  | .connectionV6 _ => connectionV6Layout

/-- Bytes of the payload of a kind. -/
def payloadSize (kind : Kind) : Nat :=
  kind.layout.size

/-- The names of the fields of the payload of a connection. -/
def connectionFields : List String := ["saddr", "daddr", "sport", "dport", "netns"]

/-- The names of the fields of the payload of a kind. -/
def fieldNames : Kind → List String
  | .syscall s => s.params.map Param.name
  | .install => ["fd", "ino", "major", "minor"]
  | .connectionV4 _ | .connectionV6 _ => connectionFields

/-- The kind of the given name. -/
def ofName? (name : String) : Option Kind :=
  all.find? fun kind => kind.name = name

end Kind

end Tracepoint
