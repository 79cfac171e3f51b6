/-!
# Lines of a text

A line ends at a newline, which may have one carriage return before it; neither belongs to the
line.  What follows the last newline is a line if it is not empty, and keeps a carriage return.
-/

set_option autoImplicit false

namespace Tracepoint.Text

/-- The lines of a text, in order. -/
def lines : List Char → List (List Char)
  | [] => []
  | '\n' :: cs => [] :: lines cs
  | '\r' :: '\n' :: cs => [] :: lines cs
  | c :: cs =>
    match lines cs with
    | [] => [[c]]
    | l :: ls => (c :: l) :: ls

end Tracepoint.Text
