import Tracepoint.Schema.FieldLine
import Tracepoint.Text.Pattern

/-!
# The pattern of a field line

What a line that declares a field looks like, as a regular pattern.  The scanner of field lines
finds in one pass what a search for the pattern captures.
-/

set_option autoImplicit false

namespace Tracepoint.FieldLine

open Text (Pattern)

/-- Whether a character is other than a newline. -/
def isInLine (c : Char) : Bool :=
  c ≠ '\n'

/-- The pattern `\s+field:(?P<type>.*?) (?P<name>[a-z_0-9]+);.*` of a line that declares a field. -/
def pattern : Pattern :=
  .sequence [
    .oneOrMore Text.isBlank,
    .literal mark,
    .group "type" (.many false isInLine),
    .literal [' '],
    .group "name" (.oneOrMore isNameChar),
    .literal [';'],
    .many true isInLine]

/-- What the groups of the pattern take, for a type and a name. -/
def groups (type name : List Char) : List (String × List Char) :=
  [("type", type), ("name", name)]

end Tracepoint.FieldLine
