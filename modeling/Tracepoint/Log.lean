/-!
# Log lines

What the library has to say besides its results: lines of text at one of two levels.
-/

set_option autoImplicit false

namespace Tracepoint

/-- How much a log line matters. -/
inductive LogLevel where
  | debug
  | trace
  deriving DecidableEq, Repr

/-- A line of the log. -/
structure LogLine where
  level : LogLevel
  text : String
  deriving DecidableEq, Repr

/-- The level as it stands in front of a line. -/
def LogLevel.name : LogLevel → String
  | .debug => "DEBUG"
  | .trace => "TRACE"

/-- A log line with its level. -/
def LogLine.render (line : LogLine) : String :=
  line.level.name ++ " " ++ line.text

end Tracepoint
