import Tracepoint.Event.View
import Tracepoint.Trace.ReturnValue
import Tracepoint.Trace.Style

/-!
# Trace lines

A trace line tells of one syscall: process, name, arguments, what it returned, and possibly more
after that.  It is written in small pieces, which depend on the style.
-/

set_option autoImplicit false

namespace Tracepoint.Trace

/-- What a trace line tells. -/
structure Line where
  pid : Pid
  name : String
  args : List Bytes
  ret : Int64
  /-- What follows the return value. -/
  suffix? : Option Bytes
  deriving DecidableEq, Repr

namespace Line

/-! ## The text of a line -/

/-- The text of a line. -/
def text (style : Style) (line : Line) : Bytes :=
  let pid := Text.toBytes (toString line.pid.toNat)
  let name := Text.toBytes line.name
  let ret := Text.toBytes (returnText line.name line.ret)
  let rest := ret ++ line.suffix?.getD [] ++ Text.toBytes "\n"
  match style with
  | .oneLine =>
    pid ++ Text.toBytes " " ++ name ++ Text.toBytes "(" ++
      (Text.toBytes ", ").intercalate line.args ++ Text.toBytes ") = " ++ rest
  | .multiLine =>
    pid ++ Text.toBytes "\n\t" ++ name ++ Text.toBytes "(" ++
      (Text.toBytes ",").intercalate (line.args.map (Text.toBytes "\n\t    " ++ ·)) ++
      Text.toBytes "\n\t) = " ++ rest

/-! ## The pieces of a line -/

/-- The pieces up to the arguments. -/
def opening (style : Style) (line : Line) : List Bytes :=
  [ Text.toBytes (toString line.pid.toNat),
    match style with
    | .oneLine => Text.toBytes " "
    | .multiLine => Text.toBytes "\n\t",
    Text.toBytes line.name,
    Text.toBytes "("]

/-- The pieces of an argument; `first` tells whether it is the first one. -/
def argument (style : Style) (first : Bool) (arg : Bytes) : List Bytes :=
  (if first then [] else [Text.toBytes ","]) ++
  match style with
  | .oneLine => (if first then [] else [Text.toBytes " "]) ++ [arg]
  | .multiLine => [Text.toBytes "\n\t", Text.toBytes "    ", arg]

/-- The pieces of all arguments. -/
def arguments (style : Style) : List Bytes → List Bytes
  | [] => []
  | arg :: rest => argument style true arg ++ rest.flatMap (argument style false)

/-- The pieces after the arguments. -/
def closing (style : Style) (line : Line) : List Bytes :=
  (match style with
    | .oneLine => []
    | .multiLine => [Text.toBytes "\n\t"]) ++
  [Text.toBytes ") = ", Text.toBytes (returnText line.name line.ret)] ++
  line.suffix?.toList ++
  [Text.toBytes "\n"]

/-- All pieces of a line, in order. -/
def pieces (style : Style) (line : Line) : List Bytes :=
  line.opening style ++ arguments style line.args ++ line.closing style

/-! ## Lines of events -/

/-- The line of a decoded event. -/
def ofEvent (e : DecodedEvent) : Line :=
  { pid := e.header.process
    name := e.header.name
    args := e.namedArgs.map fun (name, value) => Text.toBytes (name ++ ": " ++ value)
    ret := e.header.ret
    suffix? := none }

end Line

end Tracepoint.Trace
