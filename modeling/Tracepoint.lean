import Tracepoint.Bundled
import Tracepoint.Event.Capture
import Tracepoint.Event.Metric
import Tracepoint.Event.Run
import Tracepoint.FileTree.Files
import Tracepoint.FileTree.Names
import Tracepoint.FileTree.Procfs
import Tracepoint.Main
import Tracepoint.Proofs.Artifact.LockStep
import Tracepoint.Proofs.Descriptor.Interleaving
import Tracepoint.Proofs.Descriptor.LastWriter
import Tracepoint.Proofs.Descriptor.Reuse
import Tracepoint.Proofs.Descriptor.Separation
import Tracepoint.Proofs.Event.Acceptance
import Tracepoint.Proofs.Event.Export
import Tracepoint.Proofs.Event.Faithful
import Tracepoint.Proofs.Schema.Alignment
import Tracepoint.Proofs.Schema.Gathering
import Tracepoint.Proofs.Trace.Newlines
import Tracepoint.Trace.Writer
import Tracepoint.Schema.FieldPattern
import Tracepoint.Proofs.Schema.FieldLine
import Tracepoint.Proofs.Artifact.Agreement
import Tracepoint.Proofs.Schema.Carrying
import Tracepoint.Proofs.Schema.Parsing
import Tracepoint.Proofs.Event.Dispatch
import Tracepoint.Proofs.Descriptor.FlatView
import Tracepoint.Proofs.Event.Views
import Tracepoint.Proofs.Event.Generated
import Tracepoint.Proofs.Event.ValidParts
import Tracepoint.Trace.Formatter
import Tracepoint.Proofs.Trace.Formatting
import Tracepoint.Proofs.Schema.Edits
import Tracepoint.Proofs.Artifact.Scoping
import Tracepoint.Proofs.Artifact.Naming
import Tracepoint.Proofs.Event.WrittenHeader
import Tracepoint.Proofs.Schema.Descriptors
import Tracepoint.Proofs.Descriptor.ProcessRoot
