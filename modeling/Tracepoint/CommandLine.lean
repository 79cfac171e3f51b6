import Tracepoint.Build

/-!
# The command line

Two options, each with a value: the directory of tracepoints and the directory for the generated
files.  A value follows its option as the next argument, after an equals sign, or, after the short
form of the option, at once.  Besides there are the usual requests for help and for the version.
-/

set_option autoImplicit false

namespace Tracepoint.CommandLine

/-- An option that takes a value. -/
inductive OptionName where
  | tracefs
  | out
  deriving DecidableEq, Repr

/-- A request that takes no value. -/
inductive Request where
  | help
  | version
  deriving DecidableEq, Repr

/-- What an option or a request is called. -/
inductive Flag where
  | option (name : OptionName)
  | request (request : Request)
  deriving DecidableEq, Repr

/-- The flag of a long name. -/
def Flag.ofLong? (name : String) : Option Flag :=
  if name = "tracefs" then some (.option .tracefs)
  else if name = "out" then some (.option .out)
  else if name = "help" then some (.request .help)
  else if name = "version" then some (.request .version)
  else none

/-- The flag of a letter. -/
def Flag.ofShort? (letter : Char) : Option Flag :=
  if letter = 'o' then some (.option .out)
  else if letter = 'h' then some (.request .help)
  else if letter = 'V' then some (.request .version)
  else none

/-- The values given so far, and the option whose value is not settled yet. -/
structure State where
  tracefs? : Option String
  out? : Option String
  pending? : Option (OptionName × Option String)
  deriving DecidableEq, Repr

/-- Why reading the arguments stops early. -/
inductive Stop where
  | request (request : Request)
  | misuse
  deriving DecidableEq, Repr

namespace State

/-- The state before the first argument. -/
def start : State := ⟨none, none, none⟩

/-- Gives an option its value.  A value is not empty, and is given only once. -/
def assign (s : State) (name : OptionName) (value : String) : Except Stop State :=
  if value = "" then .error .misuse
  else
    match name with
    | .tracefs =>
      if s.tracefs?.isSome then .error .misuse else .ok { s with tracefs? := some value }
    | .out => if s.out?.isSome then .error .misuse else .ok { s with out? := some value }

/-- Settles the option that waits for its value. -/
def settle (s : State) : Except Stop State :=
  match s.pending? with
  | none => .ok s
  | some (_, none) => .error .misuse
  | some (name, some value) => { s with pending? := none }.assign name value

/-- Reads a flag with the value that is attached to it, if there is one. -/
def flag (s : State) (f : Flag) (attached? : Option String) : Except Stop State :=
  match f, attached? with
  | .request _, some _ => .error .misuse
  | .request request, none => do
    let _ ← s.settle
    .error (.request request)
  | .option name, some value => do (← s.settle).assign name value
  | .option name, none => do return { ← s.settle with pending? := some (name, none) }

/-- The value in what follows the letter of an option. -/
def attachedValue? : List Char → Option String
  | [] => none
  | '=' :: value => some (String.ofList value)
  | value => some (String.ofList value)

/-- Reads letters that stand together. -/
def letters (s : State) : List Char → Except Stop State
  | [] => .ok s
  | c :: cs =>
    match Flag.ofShort? c with
    | none => .error .misuse
    | some (.option name) => s.flag (.option name) (attachedValue? cs)
    | some (.request request) => do (← s.flag (.request request) none).letters cs

/-- Reads an argument with a long name. -/
def long (s : State) (body : List Char) : Except Stop State :=
  let name := String.ofList (body.takeWhile (· ≠ '='))
  let attached? :=
    match body.dropWhile (· ≠ '=') with
    | [] => none
    | _ :: value => some (String.ofList value)
  match Flag.ofLong? name with
  | none => .error .misuse
  | some f => s.flag f attached?

/-- Reads an argument that is no flag: the value of the option before it. -/
def plain (s : State) (value : String) : Except Stop State :=
  match s.pending? with
  | some (name, none) => .ok { s with pending? := some (name, some value) }
  | _ => .error .misuse

/-- Reads arguments.  After two dashes nothing may follow. -/
def read (s : State) : List String → Except Stop State
  | [] => s.settle
  | arg :: rest =>
    match arg.toList with
    | ['-', '-'] => if rest.isEmpty then s.settle else .error .misuse
    | '-' :: '-' :: body => do (← s.long body).read rest
    | '-' :: c :: cs => do (← s.letters (c :: cs)).read rest
    | _ => do (← s.plain arg).read rest

end State

/-- What the arguments ask for. -/
inductive Invocation where
  | build (tracefs out : String)
  | request (request : Request)
  | misuse
  deriving DecidableEq, Repr

namespace Invocation

/-- Where tracepoints are looked for unless told otherwise. -/
def defaultTracefs : String := "/sys/kernel/debug/tracing/events/syscalls"

/-- Where files are written unless told otherwise. -/
def defaultOut : String := "."

/-- Reads the arguments. -/
def ofArgs (args : List String) : Invocation :=
  match State.start.read args with
  | .ok s => .build (s.tracefs?.getD defaultTracefs) (s.out?.getD defaultOut)
  | .error (.request r) => .request r
  | .error .misuse => .misuse

end Invocation

/-- How a run ends. -/
inductive Exit where
  | success
  /-- The build failed. -/
  | failure (error : BuildError)
  | misuse
  deriving DecidableEq, Repr

namespace Exit

/-- The status that is left to the caller. -/
def code : Exit → UInt8
  | .success => 0
  | .failure _ => 1
  | .misuse => 2

end Exit

/-- Does what the arguments ask for. -/
def run {m : Type → Type} [Monad m] (files : Files m) (args : List String) : m Exit := do
  match Invocation.ofArgs args with
  | .request _ => return .success
  | .misuse => return .misuse
  | .build tracefs out =>
    match ← Build.run files (Text.toBytes tracefs) (Text.toBytes out) with
    | .ok () => return .success
    | .error e => return .failure e

end Tracepoint.CommandLine
