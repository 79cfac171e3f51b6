import Tracepoint.Descriptor.Path
import Tracepoint.IoError
import Tracepoint.Log
import Tracepoint.Schema.Format
import Tracepoint.Text.Utf8

/-!
# Compiling a directory of tracepoints

A kernel has one directory per tracepoint, with the format in a file.  Those for entering one of
the considered syscalls are compiled, whatever the order they are listed in; what cannot be listed
or read is left out.
-/

set_option autoImplicit false

namespace Tracepoint

/-- An entry of a directory. -/
structure DirectoryEntry where
  name : Bytes
  isDirectory : Bool
  /-- What reading the format in the entry gives, if it is a directory. -/
  format : Except IoError String

namespace DirectoryEntry

/-- What the names of tracepoints for entering a syscall start with. -/
def enterMark : String := "sys_enter_"

/-- What the names of tracepoints for leaving a syscall start with. -/
def exitMark : String := "sys_exit"

/-- What becomes of an entry. -/
inductive Considered where
  /-- It is no tracepoint for entering a syscall. -/
  | ignored
  /-- The syscall is none of those considered. -/
  | skipped (event : String)
  /-- The format cannot be read. -/
  | unavailable (syscall : String) (error : IoError)
  | format (syscall text : String)

/-- The syscall that an event is the entering of. -/
def entered? (event : String) : Option String :=
  if exitMark.toList.isPrefixOf event.toList then none
  else if enterMark.toList.isPrefixOf event.toList then
    some (String.ofList (event.toList.drop enterMark.toList.length))
  else none

/-- Decides what becomes of an entry. -/
def consider (entry : DirectoryEntry) : Considered :=
  if ¬ entry.isDirectory then .ignored
  else
    let event := Text.ofBytes entry.name
    match entered? event with
    | none => .ignored
    | some syscall =>
      if syscall ∉ consideredSyscalls then .skipped event
      else
        match entry.format with
        | .error e => .unavailable syscall e
        | .ok text => .format syscall text

/-- The file that the format of an entry is in. -/
def formatPath (directory name : Bytes) : Bytes :=
  Path.join (Path.join directory name) (Text.toBytes "format")

/-- What is logged of an entry of a directory. -/
def log (directory : Bytes) (entry : DirectoryEntry) : List LogLine :=
  match entry.consider with
  | .ignored | .format _ _ => []
  | .skipped event => [⟨.trace, "Skipping tracepoint " ++ event⟩]
  | .unavailable syscall e =>
    [⟨.debug, syscall ++ " is unavailable: " ++
      Text.ofBytes (formatPath directory entry.name) ++ ": " ++ e.text⟩]

end DirectoryEntry

/-- What listing a directory gives: its entries one after the other, or why one cannot be had. -/
abbrev Listing := List (Except IoError DirectoryEntry)

/-- The entries that can be had.  The others are passed over without a word. -/
def Listing.given (listing : Listing) : List DirectoryEntry :=
  listing.filterMap Except.toOption

/-! ## The order of syscalls -/

/-- Syscalls ordered by name. -/
def Syscall.sorted {τ : Type} (syscalls : List (Syscall τ)) : List (Syscall τ) :=
  syscalls.mergeSort fun a b => a.name ≤ b.name

/-- The three descriptions, each ordered by name for itself. -/
def Schemas.sorted (schemas : Schemas) : Schemas :=
  { decoder := Syscall.sorted schemas.decoder
    record := Syscall.sorted schemas.record
    wire := Syscall.sorted schemas.wire }

/-! ## Directories -/

/-- What compiling a directory yields, and logs on the way. -/
structure Gathered where
  result : Except SchemaError Schemas
  log : List LogLine

namespace Gathered

/-- The compiled formats of entries in order, or the first error; and what is logged until then. -/
def compile (directory : Bytes) :
    List DirectoryEntry → Except SchemaError (List Compiled) × List LogLine
  | [] => (.ok [], [])
  | entry :: rest =>
    match entry.consider with
    | .format syscall text =>
      match Compiled.ofFormat syscall text with
      | .error e => (.error e, [])
      | .ok c =>
        let (result, log) := compile directory rest
        (result.map (c :: ·), log)
    | _ =>
      let (result, log) := compile directory rest
      (result, entry.log directory ++ log)

/-- Compiles what a directory lists. -/
def ofListing (directory : Bytes) (listing : Listing) : Gathered :=
  match compile directory listing.given with
  | (.error e, log) => ⟨.error e, log⟩
  | (.ok compiled, log) =>
    let schemas := (Schemas.ofCompiled compiled).sorted
    ⟨.ok schemas, log ++ [⟨.debug, s!"Compiled {schemas.size} syscalls"⟩]⟩

end Gathered

end Tracepoint
