import Tracepoint.Event.Header
import Tracepoint.Event.Kind

/-!
# Records as the probe writes them

A record is a header and the payload of its kind, packed.
-/

set_option autoImplicit false

namespace Tracepoint.Kind

/-- Bytes of a whole record. -/
def recordSize (kind : Kind) : Nat :=
  Header.size + kind.payloadSize

/-- The bytes of a record with the given header and field values. -/
def encode (kind : Kind) (header : Header) (values : List Value) : Bytes :=
  header.encode ++ kind.layout.encode values

end Tracepoint.Kind
