import Tracepoint.Schema.Types
import Tracepoint.Text.CamelCase

/-!
# Syscall schemas

A syscall is described three times, with the same parameters in the same order: by the types it is
decoded to, by the types of the record that the probe writes, and by the types of the wire message.
-/

set_option autoImplicit false

namespace Tracepoint

/-- How the byte buffers of a syscall become text. -/
inductive BufferPolicy where
  /-- A buffer ends at its first NUL byte. -/
  | nulTerminated
  /-- The return value is the number of bytes that count. -/
  | returnBounded
  deriving DecidableEq, Repr

/-- A parameter of a syscall. -/
structure Param (τ : Type) where
  /-- Index among the parameters. -/
  position : Nat
  /-- Field name as the kernel spells it. -/
  name : String
  /-- The name in camel case, as shown to users. -/
  label : String
  kernelType : String
  ty : τ
  /-- Whether the parameter is a descriptor, shown with the path of the file behind it. -/
  needsPath : Bool
  deriving DecidableEq, Repr

/-- A syscall as one target sees it. -/
structure Syscall (τ : Type) where
  /-- Event name as the kernel spells it. -/
  name : String
  /-- Name of the type that the syscall becomes in the target. -/
  typeName : String
  policy : BufferPolicy
  params : List (Param τ)
  deriving DecidableEq, Repr

/-- The name of a syscall in camel case, without any decoration. -/
def Syscall.label {τ : Type} (s : Syscall τ) : String :=
  Text.camelCase s.name

/-- How the decoded parameters lie in a captured buffer. -/
def Syscall.layout (s : Syscall DecoderType) : Layout :=
  s.params.map fun p => p.ty.storage

/-- The layout of the record that the probe writes, without its header. -/
def Syscall.recordLayout (s : Syscall RecordType) : Layout :=
  s.params.map fun p => p.ty.storage

/-- The three descriptions of a list of syscalls. -/
structure Schemas where
  decoder : List (Syscall DecoderType)
  record : List (Syscall RecordType)
  wire : List (Syscall WireType)
  deriving DecidableEq, Repr

namespace Schemas

/-- The number of syscalls. -/
def size (schemas : Schemas) : Nat :=
  schemas.decoder.length

/-- Whether there are no syscalls. -/
def isEmpty (schemas : Schemas) : Bool :=
  schemas.decoder.isEmpty

end Schemas

/-! ## Which syscalls -/

/-- The syscalls that events exist for. -/
def consideredSyscalls : List String := [
  "open", "close", "read", "write", "mkdir", "mkdirat", "chmod", "fchmod", "fchmodat", "chown",
  "fchown", "fchownat"]

/-- The syscalls that return how many bytes of their buffer count. -/
def returnBoundedSyscalls : List String := ["read", "write"]

/-- How the buffers of the named syscall become text. -/
def BufferPolicy.ofSyscall (name : String) : BufferPolicy :=
  if name ∈ returnBoundedSyscalls then .returnBounded else .nulTerminated

end Tracepoint
