import Tracepoint.Record.LittleEndian

/-!
# IPv4 addresses

An address is the number that its four octets, in network order, spell when the machine reads
them from memory; its text gives the octets in that order.
-/

set_option autoImplicit false

namespace Tracepoint

/-- An IPv4 address as it lies in a socket. -/
structure Ipv4 where
  word : UInt32
  deriving DecidableEq, Repr

namespace Ipv4

/-- The four octets, in network order. -/
def octets (address : Ipv4) : Bytes :=
  LittleEndian.ofNat 4 address.word.toNat

/-- The text of octets: decimal numbers joined by dots. -/
def dotted (octets : Bytes) : String :=
  ".".intercalate (octets.map fun o => toString o.toNat)

/-- The dotted text of an address. -/
def text (address : Ipv4) : String :=
  dotted address.octets

end Ipv4

end Tracepoint
