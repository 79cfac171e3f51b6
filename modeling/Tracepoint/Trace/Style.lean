/-!
# Styles of trace lines
-/

set_option autoImplicit false

namespace Tracepoint.Trace

/-- How a trace line is laid out. -/
inductive Style where
  /-- All of it on one line. -/
  | oneLine
  /-- One argument per line. -/
  | multiLine
  deriving DecidableEq, Repr

namespace Style

/-- All styles; the first is the one used where none is chosen. -/
def all : List Style := [.oneLine, .multiLine]

/-- The style used where none is chosen. -/
def preset : Style := .oneLine

/-- The name by which a style is chosen. -/
def name : Style → String
  | .oneLine => "one-line"
  | .multiLine => "multi-line"

/-- The style of the given name.  Ignoring case folds ASCII letters only. -/
def ofName? (ignoreCase : Bool) (name : String) : Option Style :=
  let fold (s : String) : List Char := if ignoreCase then s.toList.map Char.toLower else s.toList
  all.find? fun style => fold style.name = fold name

/-- What is said about a name that no style has. -/
def unknownMessage (name : String) : String :=
  "invalid variant: " ++ name

end Style

end Tracepoint.Trace
