import Tracepoint.Event.Decode

/-!
# Runs

A run is a list of operations on one table, each in surroundings of its own: what the machine
answers, and what others do meanwhile, may differ from one operation to the next.
-/

set_option autoImplicit false

namespace Tracepoint

/-- An operation on the table of descriptors. -/
inductive Operation where
  /-- A captured buffer is decoded. -/
  | decode (buffer : Bytes)
  /-- A descriptor was installed for the file of the given identity. -/
  | install (pid : Pid) (fd : Fd) (identity : Identity)
  /-- The path behind a descriptor is asked for. -/
  | resolve (pid : Pid) (fd : Fd)
  /-- A descriptor was closed. -/
  | forget (pid : Pid) (fd : Fd)
  /-- A process is gone. -/
  | exit (pid : Pid)
  deriving DecidableEq, Repr

/-- The answer to an operation. -/
inductive Reply where
  | decoded (result : Except DecodeError DecodedEvent)
  | installed (installed : Installed)
  | resolved (resolution : Resolution)
  | done

namespace Operation

/-- Carries out an operation. -/
def apply (s : Surroundings) (t : Table) : Operation → Outcome Reply
  | .decode buffer => (decodeBuffer s t buffer).map .decoded
  | .install pid fd identity => (Tracker.install s.procfs t pid fd identity).map .installed
  | .resolve pid fd => (Tracker.resolve s t pid fd).map .resolved
  | .forget pid fd => (Tracker.forget t pid fd).map fun _ => .done
  | .exit pid => (Tracker.processExited t pid).map fun _ => .done

end Operation

/-- An operation in its surroundings. -/
structure Step where
  surroundings : Surroundings
  operation : Operation

namespace Step

/-- Carries out a step. -/
def apply (t : Table) (step : Step) : Outcome Reply :=
  step.operation.apply step.surroundings t

/-- The table after steps in order. -/
def runTable (t : Table) (steps : List Step) : Table :=
  steps.foldl (fun t step => (step.apply t).table) t

/-- The answers to steps in order. -/
def replies (t : Table) : List Step → List Reply
  | [] => []
  | step :: rest => (step.apply t).value :: replies (step.apply t).table rest

end Step

end Tracepoint
