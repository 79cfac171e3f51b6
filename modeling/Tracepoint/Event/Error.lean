/-!
# Errors of decoding and of asking for arguments
-/

set_option autoImplicit false

namespace Tracepoint

/-- Why a captured buffer is rejected. -/
inductive DecodeError where
  /-- The buffer ends within the header. -/
  | truncatedHeader (length : Nat)
  /-- The buffer ends within the payload of its event. -/
  | truncatedPayload (event : String) (expected actual : Nat)
  deriving DecidableEq, Repr

/-- The wording of an error. -/
def DecodeError.message : DecodeError → String
  | .truncatedHeader length =>
    s!"buffer of {length} bytes is too short for the common event header"
  | .truncatedPayload event expected actual =>
    s!"{event} needs {expected} bytes of payload, got {actual}"

/-- Why an argument cannot be given. -/
inductive ArgError where
  /-- The event has fewer arguments. -/
  | outOfRange (event : String) (index : Nat)
  /-- Events of this kind do not give their arguments. -/
  | unsupported (event : String)
  deriving DecidableEq, Repr

/-- The wording of an error. -/
def ArgError.message : ArgError → String
  | .outOfRange event index => s!"{event} has no argument {index}"
  | .unsupported event => s!"{event} does not expose its arguments"

/-- Rejects a payload that is shorter than its event needs. -/
def ensurePayload (event : String) (expected actual : Nat) : Except DecodeError Unit :=
  if actual < expected then .error (.truncatedPayload event expected actual) else .ok ()

end Tracepoint
