import Tracepoint.Text.Printable
import Tracepoint.Text.GraphemeExtend

/-!
# Quoted text

A text between double quotes, in a form that shows every character of it: the quote and the
backslash get a backslash, five control characters have a letter, and whatever is not printed as
it is, or would attach to its neighbour, is spelled by its code point.
-/

set_option autoImplicit false

namespace Tracepoint.Text.Quoted

/-- A character by its code point, in hexadecimal without leading zeros. -/
def codePoint (c : Char) : List Char :=
  ['\\', 'u', '{'] ++ Nat.toDigits 16 c.toNat ++ ['}']

/-- The sound marks of halfwidth katakana.  They count as extending a grapheme, but take up a cell
of their own. -/
def soundMarks : List Char := ['\uFF9E', '\uFF9F']

/-- The letters that are ignored by default: fillers, which have no shape. -/
def fillers : List Char := ['\u115F', '\u1160', '\u3164', '\uFFA0']

/-- Whether a character would attach to the one before it. -/
def attaches (c : Char) : Bool :=
  isGraphemeExtend c && c ∉ soundMarks

/-- Whether a character is seen where it is printed. -/
def isVisible (c : Char) : Bool :=
  isPrintable c && c ∉ fillers

/-- The form of one character between the quotes. -/
def escape (c : Char) : List Char :=
  if c = '\x00' then ['\\', '0']
  else if c = '\t' then ['\\', 't']
  else if c = '\r' then ['\\', 'r']
  else if c = '\n' then ['\\', 'n']
  else if c = '"' then ['\\', '"']
  else if c = '\\' then ['\\', '\\']
  else if attaches c || !isVisible c then codePoint c
  else [c]

/-- The quoted form of a text. -/
def quote (s : String) : String :=
  String.ofList ('"' :: s.toList.flatMap escape ++ ['"'])

end Tracepoint.Text.Quoted
