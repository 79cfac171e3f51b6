import Tracepoint.Text.Blank

/-!
# Field lines

A line of a tracepoint format declares a field as `field:`, a type, a space, a name and a
semicolon.  The type may hold spaces and semicolons itself: it ends before the first space that a
name and a semicolon follow.
-/

set_option autoImplicit false

namespace Tracepoint.FieldLine

/-- What starts a declaration. -/
def mark : List Char := "field:".toList

/-- What follows `front` in `cs`, if `cs` starts with it. -/
def after? (front cs : List Char) : Option (List Char) :=
  if front.isPrefixOf cs then some (cs.drop front.length) else none

/-- Whether a line declares a field: white space aside, it starts with the mark. -/
def declares (line : List Char) : Bool :=
  mark.isPrefixOf (Text.trimStart line)

/-- What follows the first mark that has white space right before it. -/
def declaration? : List Char → Option (List Char)
  | [] => none
  | c :: cs =>
    if Text.isBlank c then
      match after? mark cs with
      | some rest => some rest
      | none => declaration? cs
    else declaration? cs

/-- Whether a character can be part of a field name. -/
def isNameChar (c : Char) : Bool :=
  c.isLower || c.isDigit || c = '_'

/-- The name of a space, a name and a semicolon at the front. -/
def nameAtFront? : List Char → Option (List Char)
  | ' ' :: cs =>
    let name := cs.takeWhile isNameChar
    if name ≠ [] ∧ (cs.dropWhile isNameChar).head? = some ';' then some name else none
  | _ => none

/-- The type and the name in a declaration. -/
def typeAndName? : List Char → Option (List Char × List Char)
  | [] => none
  | c :: cs =>
    match nameAtFront? (c :: cs) with
    | some name => some ([], name)
    | none =>
      match typeAndName? cs with
      | some (type, name) => some (c :: type, name)
      | none => none

/-- The type and the name that a line declares. -/
def split? (line : List Char) : Option (List Char × List Char) :=
  (declaration? line).bind typeAndName?

end Tracepoint.FieldLine
