import Tracepoint.Artifact.Source
import Tracepoint.Schema.Basic

/-!
# What a decoder does

The contents of the decoder source of one syscall, before it is spelled out: a struct, a function
that decodes it, four functions that show it or export it.  Fields are spelled as the source spells
them.
-/

set_option autoImplicit false

namespace Tracepoint.Artifact

/-- The type of a struct field. -/
inductive FieldType where
  | value (ty : DecoderType)
  /-- The path behind a descriptor. -/
  | path
  deriving DecidableEq, Repr

/-- How decoding fills a struct field at first. -/
inductive Initial where
  /-- Reads the next bytes, at the width the probe wrote them with. -/
  | read (ty : RecordType)
  | emptyText
  deriving DecidableEq, Repr

/-- What decoding does after all fields are read. -/
inductive Statement where
  /-- Looks up the path behind the descriptor in `field`. -/
  | resolve (pathField field : String)
  /-- Drops what is known about the descriptor in `field`. -/
  | forget (field : String)
  deriving DecidableEq, Repr

/-- A field as text, for users. -/
inductive Shown where
  | plain (field : String)
  /-- The text of a buffer that ends at its first NUL byte. -/
  | terminated (field : String)
  /-- The text of a buffer of which the return value says how much counts. -/
  | bounded (field : String)
  deriving DecidableEq, Repr

/-- A value that goes into a template. -/
inductive TemplateValue where
  | shown (text : Shown)
  | path (pathField : String)
  deriving DecidableEq, Repr

/-- How an argument is displayed. -/
inductive Display where
  | quoted
  /-- Followed by the path behind the descriptor, in angle brackets. -/
  | withPath
  | plain
  deriving DecidableEq, Repr

/-- An argument in the list of arguments. -/
inductive ArgEntry where
  | quoted (name : String) (text : Shown)
  | withPath (name : String) (text : Shown) (pathField : String)
  | plain (name : String) (text : Shown)
  deriving DecidableEq, Repr

/-- How a field goes into its message. -/
inductive Export where
  | copied (field : String)
  | converted (field : String)
  deriving DecidableEq, Repr

/-- The decoder of one syscall. -/
structure DecoderTree where
  typeName : String
  event : String
  fields : List (String × FieldType)
  argNames : List String
  payloadSize : Nat
  /-- Whether the decoding function uses the header that it is given. -/
  usesHeader : Bool
  /-- Whether the decoding function uses the context that it is given. -/
  usesContext : Bool
  /-- Whether the showing functions use the return value that they are given. -/
  usesReturn : Bool
  initials : List (String × Initial)
  /-- Paths are looked up before anything is dropped. -/
  resolutions : List Statement
  forgets : List Statement
  /-- The labels of the template, each with the way its argument is displayed. -/
  template : List (String × Display)
  values : List TemplateValue
  /-- The arguments by position. -/
  arms : List (Nat × Shown)
  entries : List ArgEntry
  /-- Name of the message that the syscall is exported as. -/
  message : String
  exports : List Export
  deriving DecidableEq, Repr

namespace DecoderTree

/-- Whether some parameter is a descriptor. -/
def resolvesPaths (s : Syscall DecoderType) : Bool :=
  s.params.any fun p => p.needsPath

/-- Whether decoding the syscall drops a descriptor. -/
def forgetsDescriptor (s : Syscall DecoderType) : Bool :=
  s.name = "close"

/-- Whether the return value matters for showing the syscall. -/
def boundsBuffers (s : Syscall DecoderType) : Bool :=
  s.policy = .returnBounded && s.params.any fun p => p.ty.isBuffer

/-- A parameter as text. -/
def shown (policy : BufferPolicy) (p : Param DecoderType) : Shown :=
  if p.ty.isBuffer then
    match policy with
    | .nulTerminated => .terminated (rustField p.name)
    | .returnBounded => .bounded (rustField p.name)
  else .plain (rustField p.name)

/-- How a parameter is displayed. -/
def display (p : Param DecoderType) : Display :=
  if p.ty.isBuffer then .quoted else if p.needsPath then .withPath else .plain

/-- The fields of a parameter: its value, and the path behind it if it is a descriptor. -/
def paramFields (p : Param DecoderType) : List (String × FieldType) :=
  (rustField p.name, .value p.ty) ::
    if p.needsPath then [(pathField p.name, .path)] else []

/-- How the fields of a parameter are filled at first. -/
def paramInitials (p : Param DecoderType) (r : Param RecordType) : List (String × Initial) :=
  (rustField p.name, .read r.ty) ::
    if p.needsPath then [(pathField p.name, .emptyText)] else []

/-- The values of a parameter in the template. -/
def paramValues (policy : BufferPolicy) (p : Param DecoderType) : List TemplateValue :=
  .shown (shown policy p) :: if p.needsPath then [.path (pathField p.name)] else []

/-- A parameter in the list of arguments. -/
def paramEntry (policy : BufferPolicy) (p : Param DecoderType) : ArgEntry :=
  match display p with
  | .quoted => .quoted p.name (shown policy p)
  | .withPath => .withPath p.name (shown policy p) (pathField p.name)
  | .plain => .plain p.name (shown policy p)

/-- How a parameter goes into the message. -/
def paramExport (p : Param DecoderType) : Export :=
  if p.ty.isBuffer then .copied (rustField p.name) else .converted (rustField p.name)

/-- The decoder of a syscall that the probe writes as `record` and that travels as the message of
the given name. -/
def ofSyscall (s : Syscall DecoderType) (record : Syscall RecordType) (message : String) :
    DecoderTree :=
  { typeName := s.typeName
    event := s.name
    fields := s.params.flatMap paramFields
    argNames := s.params.map Param.name
    payloadSize := record.recordLayout.size
    usesHeader := resolvesPaths s
    usesContext := resolvesPaths s || forgetsDescriptor s
    usesReturn := boundsBuffers s
    initials := (List.zipWith paramInitials s.params record.params).flatten
    resolutions := (s.params.filter Param.needsPath).map fun p =>
      .resolve (pathField p.name) (rustField p.name)
    forgets := if forgetsDescriptor s then [.forget "fd"] else []
    template := s.params.map fun p => (p.label, display p)
    values := s.params.flatMap (paramValues s.policy)
    arms := s.params.map fun p => (p.position, shown s.policy p)
    entries := s.params.map (paramEntry s.policy)
    message
    exports := s.params.map paramExport }

/-- The decoders of syscalls described side by side. -/
def ofSyscalls : List (Syscall DecoderType) → List (Syscall RecordType) →
    List (Syscall WireType) → List DecoderTree
  | d :: ds, r :: rs, w :: ws => ofSyscall d r w.typeName :: ofSyscalls ds rs ws
  | _, _, _ => []

end DecoderTree

end Tracepoint.Artifact
