import Tracepoint.Event.Basic
import Tracepoint.Text.Quoted

/-!
# Events as text

An event shows itself in three ways: as one text, as a list of named arguments, and argument by
argument.  What a syscall returned decides how much of the buffers of some syscalls counts.
-/

set_option autoImplicit false

namespace Tracepoint

/-! ## Syscalls -/

/-- The part of a buffer that counts. -/
def BufferPolicy.valid (policy : BufferPolicy) (ret : Int64) (buffer : Bytes) : Bytes :=
  match policy with
  | .nulTerminated => buffer.untilNul
  | .returnBounded => buffer.transferred ret

namespace Arg

/-- An argument by itself. -/
def text (policy : BufferPolicy) (ret : Int64) (arg : Arg) : String :=
  match arg.value with
  | .int i => toString i
  | .bytes buffer => Text.ofBytes (policy.valid ret buffer)

/-- An argument as it is displayed: a buffer in quotes, a descriptor with the path behind it. -/
def displayed (policy : BufferPolicy) (ret : Int64) (arg : Arg) : String :=
  match arg.value, arg.path? with
  | .bytes _, _ => Text.Quoted.quote (arg.text policy ret)
  | .int _, some path => arg.text policy ret ++ "<" ++ path ++ ">"
  | .int _, none => arg.text policy ret

end Arg

namespace SyscallEvent

/-- The syscall as one text. -/
def render (ret : Int64) (event : SyscallEvent) : String :=
  String.join (event.args.map fun arg =>
    arg.param.label ++ " " ++ arg.displayed event.syscall.policy ret ++ " ")

/-- The arguments with their names. -/
def namedArgs (ret : Int64) (event : SyscallEvent) : List (String × String) :=
  event.args.map fun arg => (arg.param.name, arg.displayed event.syscall.policy ret)

/-- One argument by itself. -/
def arg (n : Nat) (ret : Int64) (event : SyscallEvent) : Except ArgError String :=
  match event.args.find? fun arg => arg.param.position = n with
  | some arg => .ok (arg.text event.syscall.policy ret)
  | none => .error (.outOfRange event.syscall.name n)

end SyscallEvent

/-! ## Connections -/

namespace Connection

variable {α : Type}

/-- The fields of a connection with their names, given the text of an address. -/
def namedArgs (address : α → String) (c : Connection α) : List (String × String) := [
  ("saddr", address c.source),
  ("daddr", address c.destination),
  ("sport", toString c.sourcePort.toNat),
  ("dport", toString c.destinationPort.toNat),
  ("netns", toString c.netns.toNat)]

/-- The connection as one text. -/
def render (address : α → String) (c : Connection α) : String :=
  "Saddr " ++ address c.source ++ " Daddr " ++ address c.destination ++
    " Sport " ++ toString c.sourcePort.toNat ++ " Dport " ++ toString c.destinationPort.toNat ++
    " Netns " ++ toString c.netns.toNat ++ " "

/-- One field of a connection; `name` is the name of its event. -/
def arg (name : String) (address : α → String) (n : Nat) (c : Connection α) :
    Except ArgError String :=
  match (c.namedArgs address)[n]? with
  | some (_, text) => .ok text
  | none => .error (.outOfRange name n)

end Connection

/-! ## Any event -/

namespace Event

/-- The event as one text, given what the syscall returned. -/
def render (ret : Int64) : Event → String
  | .syscall e => e.render ret
  | .install e => "Fd " ++ toString e.fd.toNat ++ " "
  | .connectionV4 c => c.render Ipv4.text
  | .connectionV6 c => c.render Ipv6.text
  | .unknown => ""

/-- The arguments with their names, as they are displayed. -/
def namedArgs (ret : Int64) : Event → List (String × String)
  | .syscall e => e.namedArgs ret
  | .install e => [("fd", toString e.fd.toNat ++ "<" ++ e.path ++ ">")]
  | .connectionV4 c => c.namedArgs Ipv4.text
  | .connectionV6 c => c.namedArgs Ipv6.text
  | .unknown => []

/-- One argument by itself. -/
def arg (n : Nat) (ret : Int64) : Event → Except ArgError String
  | .syscall e => e.arg n ret
  | .install _ => .error (.unsupported Kind.install.name)
  | .connectionV4 c => c.arg c.stage.nameV4 Ipv4.text n
  | .connectionV6 c => c.arg c.stage.nameV6 Ipv6.text n
  | .unknown => .error (.unsupported "default")

end Event

namespace DecodedEvent

/-- The event as one text. -/
def render (e : DecodedEvent) : String :=
  e.event.render e.header.ret

/-- The arguments with their names, as they are displayed. -/
def namedArgs (e : DecodedEvent) : List (String × String) :=
  e.event.namedArgs e.header.ret

/-- One argument by itself. -/
def arg (n : Nat) (e : DecodedEvent) : Except ArgError String :=
  e.event.arg n e.header.ret

end DecodedEvent

end Tracepoint
