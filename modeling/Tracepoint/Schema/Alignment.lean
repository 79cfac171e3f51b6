import Tracepoint.Schema.Basic

/-!
# Aligned schemas

Three descriptions are aligned if they list the same syscalls with the same fields in the same
order and at compatible widths.  Nothing is generated from schemas that are not: decoding would
silently read the wrong bytes.
-/

set_option autoImplicit false

namespace Tracepoint

/-- The first way in which schemas are found not to be aligned. -/
inductive AlignmentError where
  | noSyscalls
  | syscallCounts (decoder record wire : Nat)
  | syscallOrder (decoder record wire : String)
  | fieldCounts (syscall : String)
  | fieldPosition (syscall field : String)
  | fieldNames (syscall : String) (position : Nat) (decoder record wire : String)
  | recordType (syscall field : String) (decoder : DecoderType) (record : RecordType)
  | wireType (syscall field : String) (wire : WireType) (decoder : DecoderType)
  deriving DecidableEq, Repr

/-- The wording of an error. -/
def AlignmentError.message : AlignmentError → String
  | .noSyscalls => "no syscalls to generate"
  | .syscallCounts d r w =>
    s!"schema variants disagree on the number of syscalls ({d} decoder, {r} kernel, {w} wire)"
  | .syscallOrder d r w => s!"schema variants out of order: {d} / {r} / {w}"
  | .fieldCounts s => s!"{s}: schema variants disagree on the number of fields"
  | .fieldPosition s f => s!"{s}.{f}: field is out of position"
  | .fieldNames s i d r w => s!"{s}: field {i} is {d} / {r} / {w}"
  | .recordType s f d r =>
    s!"{s}.{f}: decoder type {d.name} does not match kernel record type {r.name}"
  | .wireType s f w d => s!"{s}.{f}: wire type {w.name} cannot hold {d.name}"

namespace Schemas

/-- Whether a record field has the bytes that its decoder reads. -/
def recordMatches (d : DecoderType) (r : RecordType) : Bool :=
  d.size = r.size && d.isBuffer = r.isBuffer && (d.isBuffer || d.isSigned = r.isSigned)

/-- Whether a wire field has room for what is decoded. -/
def wireHolds (d : DecoderType) (w : WireType) : Bool :=
  d.isBuffer ||
    match w.size? with
    | some size => d.size ≤ size
    | none => false

/-- Checks one parameter of a syscall. -/
def checkParam (syscall : String) (position : Nat) (d : Param DecoderType) (r : Param RecordType)
    (w : Param WireType) : Except AlignmentError Unit :=
  if ¬ (d.position = position ∧ r.position = position ∧ w.position = position) then
    .error (.fieldPosition syscall d.name)
  else if ¬ (d.name = r.name ∧ d.name = w.name) then
    .error (.fieldNames syscall position d.name r.name w.name)
  else if ¬ recordMatches d.ty r.ty then
    .error (.recordType syscall d.name d.ty r.ty)
  else if ¬ wireHolds d.ty w.ty then
    .error (.wireType syscall d.name w.ty d.ty)
  else .ok ()

/-- Checks parameters side by side, the first of them at the given position. -/
def checkParams (syscall : String) : Nat → List (Param DecoderType) → List (Param RecordType) →
    List (Param WireType) → Except AlignmentError Unit
  | position, d :: ds, r :: rs, w :: ws =>
    match checkParam syscall position d r w with
    | .error e => .error e
    | .ok () => checkParams syscall (position + 1) ds rs ws
  | _, _, _, _ => .ok ()

/-- Checks the three descriptions of one syscall. -/
def checkSyscall (d : Syscall DecoderType) (r : Syscall RecordType) (w : Syscall WireType) :
    Except AlignmentError Unit :=
  if r.name ≠ d.name ∨ w.name ≠ d.name then .error (.syscallOrder d.name r.name w.name)
  else if ¬ (d.params.length = r.params.length ∧ d.params.length = w.params.length) then
    .error (.fieldCounts d.name)
  else checkParams d.name 0 d.params r.params w.params

/-- Checks syscalls side by side. -/
def checkSyscalls : List (Syscall DecoderType) → List (Syscall RecordType) →
    List (Syscall WireType) → Except AlignmentError Unit
  | d :: ds, r :: rs, w :: ws =>
    match checkSyscall d r w with
    | .error e => .error e
    | .ok () => checkSyscalls ds rs ws
  | _, _, _ => .ok ()

/-- Checks that the three descriptions are aligned. -/
def checkAligned (schemas : Schemas) : Except AlignmentError Unit :=
  if schemas.isEmpty then .error .noSyscalls
  else if ¬ (schemas.decoder.length = schemas.record.length ∧
      schemas.decoder.length = schemas.wire.length) then
    .error (.syscallCounts schemas.decoder.length schemas.record.length schemas.wire.length)
  else checkSyscalls schemas.decoder schemas.record schemas.wire

end Schemas

end Tracepoint
