import Tracepoint.Event.Basic

/-!
# Events as wire messages

Most events can be exported: their fields become a message, in an envelope that counts the event
and carries its header.
-/

set_option autoImplicit false

namespace Tracepoint

/-- A value in a message. -/
inductive WireValue where
  | int (number : Int)
  | bytes (content : Bytes)
  | text (content : String)
  deriving DecidableEq, Repr

/-- The message of an event: the alternative of the envelope, and the fields in order. -/
structure EventMessage where
  variant : String
  fields : List (String × WireValue)
  deriving DecidableEq, Repr

/-- The message of a header.  The last two fields are filled in by collectors. -/
structure HeaderMessage where
  timestamp : UInt64
  pid : Int64
  ret : Int64
  name : String
  hash : UInt64
  flags : UInt64
  deriving DecidableEq, Repr

/-- The envelope of exported events. -/
structure Metric where
  count : UInt64
  common : Option HeaderMessage
  event : Option EventMessage
  deriving DecidableEq, Repr

/-- The envelope with nothing in it. -/
def Metric.empty : Metric := ⟨0, none, none⟩

/-- The message of a header. -/
def Header.message (h : Header) : HeaderMessage :=
  ⟨h.timestamp, h.pid, h.ret, h.name, 0, 0⟩

/-- A field as it travels; a buffer travels whole. -/
def Value.wire : Value → WireValue
  | .int i => .int i
  | .bytes b => .bytes b

/-- The message of a syscall. -/
def SyscallEvent.message (e : SyscallEvent) : EventMessage :=
  ⟨e.syscall.typeName, e.args.map fun arg => (arg.param.name, arg.value.wire)⟩

/-- The message of a connection, given how an address travels. -/
def Connection.message {α : Type} (variant : String) (address : α → WireValue)
    (c : Connection α) : EventMessage :=
  ⟨variant, [
    ("saddr", address c.source),
    ("daddr", address c.destination),
    ("sport", .int c.sourcePort.toNat),
    ("dport", .int c.destinationPort.toNat),
    ("netns", .int c.netns.toNat)]⟩

/-- The message of an event, if it has one.  IPv4 addresses travel as numbers, IPv6 addresses as
text. -/
def Event.message? : Event → Option EventMessage
  | .syscall e => some e.message
  | .install _ => none
  | .connectionV4 c => some (c.message "ConnectV4Event" fun a => .int a.word.toNat)
  | .connectionV6 c => some (c.message "ConnectV6Event" fun a => .text a.text)
  | .unknown => none

/-- The envelope of a decoded event, counted once. -/
def DecodedEvent.metric? (e : DecodedEvent) : Option Metric :=
  e.event.message?.map fun message => ⟨1, some e.header.message, some message⟩

end Tracepoint
