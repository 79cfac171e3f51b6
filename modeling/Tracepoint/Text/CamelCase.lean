/-!
# Camel case

The camel case form of an underscored identifier, without the spaces around it: ASCII letters and
digits stay, anything else is dropped, and a lower-case letter is capitalised at the start and after
an underscore or a space.
-/

set_option autoImplicit false

namespace Tracepoint.Text.CamelCase

/-- Whether a character parts two words. -/
def isSeparator (c : Char) : Bool :=
  c = '_' || c = ' '

/-- Characters without the spaces at their front and at their end. -/
def trimmed (cs : List Char) : List Char :=
  ((cs.dropWhile (· = ' ')).reverse.dropWhile (· = ' ')).reverse

/-- What a character contributes; `start` tells whether it starts a word. -/
def letter (start : Bool) (c : Char) : List Char :=
  if c.isUpper || c.isDigit then [c]
  else if c.isLower then [if start then c.toUpper else c]
  else []

/-- The camel case form of characters, the first of which starts a word if `start` holds.  A
character that is dropped without being a separator does not keep a start alive. -/
def chars (start : Bool) : List Char → List Char
  | [] => []
  | c :: cs => letter start c ++ chars (isSeparator c) cs

end CamelCase

/-- The camel case form of an identifier. -/
def camelCase (s : String) : String :=
  String.ofList (CamelCase.chars true (CamelCase.trimmed s.toList))

end Tracepoint.Text
