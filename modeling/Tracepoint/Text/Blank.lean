/-!
# Blank characters

The 25 characters with the Unicode property *White_Space*, and cutting them off the front of a
text.
-/

set_option autoImplicit false

namespace Tracepoint.Text

/-- Code point ranges of the property *White_Space*. -/
def blankRanges : List (Nat × Nat) := [
  (0x9, 0xd), (0x20, 0x20), (0x85, 0x85), (0xa0, 0xa0), (0x1680, 0x1680), (0x2000, 0x200a),
  (0x2028, 0x2029), (0x202f, 0x202f), (0x205f, 0x205f), (0x3000, 0x3000)]

/-- Whether a character is white space. -/
def isBlank (c : Char) : Bool :=
  blankRanges.any fun r => r.1 ≤ c.toNat && c.toNat ≤ r.2

/-- A text without the white space in front of it. -/
def trimStart (cs : List Char) : List Char :=
  cs.dropWhile isBlank

end Tracepoint.Text
