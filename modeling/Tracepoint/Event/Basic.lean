import Tracepoint.Address.Ipv6
import Tracepoint.Descriptor.Table
import Tracepoint.Event.Header
import Tracepoint.Event.Kind

/-!
# Events

What a captured buffer says after its header.  The fields of a syscall come as its description
lists them; those of the other events are fixed.
-/

set_option autoImplicit false

namespace Tracepoint

/-- An argument of a syscall. -/
structure Arg where
  param : Param DecoderType
  value : Value
  /-- The path behind the argument, if it is a descriptor. -/
  path? : Option String
  deriving DecidableEq, Repr

/-- A syscall that was made. -/
structure SyscallEvent where
  syscall : Syscall DecoderType
  args : List Arg
  deriving DecidableEq, Repr

/-- A descriptor that was installed into the table of a process. -/
structure InstallEvent where
  fd : UInt64
  identity : Identity
  /-- What the descriptor points at. -/
  path : String
  deriving DecidableEq, Repr

/-- A connection between two addresses. -/
structure Connection (α : Type) where
  stage : Stage
  source : α
  destination : α
  sourcePort : UInt16
  destinationPort : UInt16
  /-- The network namespace. -/
  netns : UInt32
  deriving DecidableEq, Repr

/-- What a captured buffer says. -/
inductive Event where
  | syscall (event : SyscallEvent)
  | install (event : InstallEvent)
  | connectionV4 (connection : Connection Ipv4)
  | connectionV6 (connection : Connection Ipv6)
  /-- Something that there is no decoder for. -/
  | unknown
  deriving DecidableEq, Repr

/-- A captured buffer, decoded. -/
structure DecodedEvent where
  header : Header
  event : Event
  deriving DecidableEq, Repr

end Tracepoint
