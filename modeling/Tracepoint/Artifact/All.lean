import Tracepoint.Artifact.Decoder
import Tracepoint.Artifact.Proto
import Tracepoint.Artifact.Records
import Tracepoint.Artifact.Wire

/-!
# All artifacts

The four texts generated from one set of schemas, and the files they are kept in.
-/

set_option autoImplicit false

namespace Tracepoint

/-- Everything generated from one set of schemas. -/
structure Artifacts where
  decoder : String
  records : String
  wire : String
  proto : String
  deriving DecidableEq, Repr

namespace Artifacts

/-- Generates all texts from aligned schemas. -/
def ofSchemas (schemas : Schemas) : Except AlignmentError Artifacts := do
  let decoder ← Artifact.decoderSource schemas
  let records ← Artifact.recordSource schemas
  let wire ← Artifact.wireSource schemas
  let proto ← Artifact.protoSource schemas
  return { decoder, records, wire, proto }

/-- The files with their contents, in the order in which they are written. -/
def files (artifacts : Artifacts) : List (String × String) := [
  ("events_generated.rs", artifacts.decoder),
  ("records_generated.rs", artifacts.records),
  ("wire_generated.rs", artifacts.wire),
  ("tracewell.proto", artifacts.proto)]

end Artifacts

end Tracepoint
