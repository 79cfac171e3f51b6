import Tracepoint.Schema.Basic
import Tracepoint.Schema.FieldLine
import Tracepoint.Text.Lines
import Tracepoint.Text.Quoted

/-!
# Compiling tracepoint formats

The `format` text of a tracepoint declares the fields of its record, those common to all
tracepoints first, then a blank line, then those of the syscall.  Compiling the text yields the
three descriptions of the syscall, each with one parameter per declared field.
-/

set_option autoImplicit false

namespace Tracepoint

/-! ## Errors -/

/-- A table of types. -/
inductive TypeTable where
  | decoder
  | record
  | wire
  deriving DecidableEq, Repr

/-- The name by which messages speak of a table. -/
def TypeTable.name : TypeTable → String
  | .decoder => "decoder"
  | .record => "kernel record"
  | .wire => "wire"

/-- Why a format is rejected. -/
inductive SchemaError where
  /-- A field has a type that a table does not list. -/
  | unmappedType (table : TypeTable) (kernelType syscall field : String)
  /-- A line starts a declaration and does not finish it. -/
  | malformedLine (syscall line : String)
  deriving DecidableEq, Repr

/-- The wording of an error. -/
def SchemaError.message : SchemaError → String
  | .unmappedType table kernelType syscall field =>
    "no " ++ table.name ++ " mapping for kernel type " ++ Text.Quoted.quote kernelType ++
      " (" ++ syscall ++ "." ++ field ++ ")"
  | .malformedLine syscall line =>
    "malformed field line in the " ++ syscall ++ " format: " ++ Text.Quoted.quote line

/-! ## Fields -/

/-- A declared field with its three types. -/
structure Field where
  name : String
  kernelType : String
  decoder : DecoderType
  record : RecordType
  wire : WireType
  deriving DecidableEq, Repr

namespace Field

/-- The field that holds the number of the syscall; no parameter. -/
def syscallNumber : String := "__syscall_nr"

/-- Whether a field name in camel case stands for a descriptor. -/
def isDescriptorLabel (label : String) : Bool :=
  label = "Fd" || label = "Dfd"

/-- The field with its types looked up. -/
def ofDeclaration (syscall kernelType name : String) : Except SchemaError Field :=
  match decoderType? kernelType with
  | none => .error (.unmappedType .decoder kernelType syscall name)
  | some decoder =>
    match recordType? kernelType with
    | none => .error (.unmappedType .record kernelType syscall name)
    | some record =>
      match wireType? decoder with
      | none => .error (.unmappedType .wire kernelType syscall name)
      | some wire => .ok ⟨name, kernelType, decoder, record, wire⟩

/-- The field that a declaring line declares; none for the number of the syscall. -/
def ofLine (syscall : String) (line : List Char) : Except SchemaError (Option Field) :=
  match FieldLine.split? line with
  | none => .error (.malformedLine syscall (String.ofList line))
  | some (type, name) =>
    if String.ofList name = syscallNumber then .ok none
    else
      match ofDeclaration syscall (String.ofList type) (String.ofList name) with
      | .error e => .error e
      | .ok field => .ok (some field)

/-- The fields that declaring lines declare, or the error of the first line that has one. -/
def ofLines (syscall : String) : List (List Char) → Except SchemaError (List Field)
  | [] => .ok []
  | line :: lines =>
    match ofLine syscall line with
    | .error e => .error e
    | .ok none => ofLines syscall lines
    | .ok (some field) =>
      match ofLines syscall lines with
      | .error e => .error e
      | .ok fields => .ok (field :: fields)

/-- The parameter that a field becomes, at a type of one target. -/
def param {τ : Type} (field : Field) (position : Nat) (ty : τ) : Param τ :=
  let label := Text.camelCase field.name
  { position, name := field.name, label, kernelType := field.kernelType, ty,
    needsPath := isDescriptorLabel label }

/-- The parameters that fields become in one target. -/
def params {τ : Type} (ty : Field → τ) (fields : List Field) : List (Param τ) :=
  fields.zipIdx.map fun (field, position) => field.param position (ty field)

end Field

/-! ## Formats -/

/-- The three descriptions of one syscall. -/
structure Compiled where
  decoder : Syscall DecoderType
  record : Syscall RecordType
  wire : Syscall WireType
  deriving DecidableEq, Repr

namespace Compiled

/-- The descriptions of a syscall with the given fields. -/
def ofFields (name : String) (fields : List Field) : Compiled :=
  let label := Text.camelCase name
  let policy := BufferPolicy.ofSyscall name
  { decoder := ⟨name, label ++ "Event", policy, Field.params Field.decoder fields⟩
    record := ⟨name, label ++ "Record", policy, Field.params Field.record fields⟩
    wire := ⟨name, "Protobuf" ++ label ++ "Event", policy, Field.params Field.wire fields⟩ }

/-- The lines of a format that declare fields of the syscall: those after the first empty line. -/
def fieldLines (format : String) : List (List Char) :=
  ((Text.lines format.toList).dropWhile (· ≠ [])).filter FieldLine.declares

/-- Compiles the format of the named syscall. -/
def ofFormat (name format : String) : Except SchemaError Compiled :=
  match Field.ofLines name (fieldLines format) with
  | .error e => .error e
  | .ok fields => .ok (ofFields name fields)

end Compiled

/-- The descriptions of a list of compiled syscalls. -/
def Schemas.ofCompiled (compiled : List Compiled) : Schemas :=
  { decoder := compiled.map Compiled.decoder
    record := compiled.map Compiled.record
    wire := compiled.map Compiled.wire }

end Tracepoint
