import Tracepoint.Bytes

/-!
# UTF-8

Encoding a text, and decoding a byte string in two ways: `decodeLossy` accepts any bytes and puts
one replacement character for each longest piece that starts a character without finishing it
(or for a byte that starts none), `decode?` accepts exactly the encoded texts.
-/

set_option autoImplicit false

namespace Tracepoint.Text

namespace Utf8

/-- What stands for bytes that are no character. -/
def replacement : Char := '\uFFFD'

/-- The bytes of a text. -/
def encode (cs : List Char) : Bytes :=
  cs.flatMap String.utf8EncodeChar

/-- Whether a byte can follow the second byte of a character. -/
def isTail (b : UInt8) : Bool :=
  0x80 ≤ b && b ≤ 0xBF

/-- Whether `b` can be the second byte of a character of two bytes or more that starts with `a`.
The narrow ranges keep out overlong forms, surrogates and numbers past the last code point. -/
def isSecond (a b : UInt8) : Bool :=
  if a = 0xE0 then 0xA0 ≤ b && b ≤ 0xBF
  else if a = 0xED then 0x80 ≤ b && b ≤ 0x9F
  else if a = 0xF0 then 0x90 ≤ b && b ≤ 0xBF
  else if a = 0xF4 then 0x80 ≤ b && b ≤ 0x8F
  else isTail b

/-- The six bits a following byte carries. -/
def tailBits (b : UInt8) : Nat :=
  b.toNat % 64

/-- The character of two bytes. -/
def join2 (a b : UInt8) : Char :=
  Char.ofNat (a.toNat % 32 * 64 + tailBits b)

/-- The character of three bytes. -/
def join3 (a b c : UInt8) : Char :=
  Char.ofNat ((a.toNat % 16 * 64 + tailBits b) * 64 + tailBits c)

/-- The character of four bytes. -/
def join4 (a b c d : UInt8) : Char :=
  Char.ofNat (((a.toNat % 8 * 64 + tailBits b) * 64 + tailBits c) * 64 + tailBits d)

/-- The text of any bytes, with a replacement character for each piece that is no character. -/
def decodeLossy : Bytes → List Char
  | [] => []
  | a :: r =>
    if a < 0x80 then Char.ofNat a.toNat :: decodeLossy r
    else if 0xC2 ≤ a && a ≤ 0xDF then
      match r with
      | b :: r₁ =>
        if isSecond a b then join2 a b :: decodeLossy r₁
        else replacement :: decodeLossy (b :: r₁)
      | [] => [replacement]
    else if 0xE0 ≤ a && a ≤ 0xEF then
      match r with
      | b :: c :: r₂ =>
        if isSecond a b then
          if isTail c then join3 a b c :: decodeLossy r₂
          else replacement :: decodeLossy (c :: r₂)
        else replacement :: decodeLossy (b :: c :: r₂)
      | [b] => if isSecond a b then [replacement] else replacement :: decodeLossy [b]
      | [] => [replacement]
    else if 0xF0 ≤ a && a ≤ 0xF4 then
      match r with
      | b :: c :: d :: r₃ =>
        if isSecond a b then
          if isTail c then
            if isTail d then join4 a b c d :: decodeLossy r₃
            else replacement :: decodeLossy (d :: r₃)
          else replacement :: decodeLossy (c :: d :: r₃)
        else replacement :: decodeLossy (b :: c :: d :: r₃)
      | [b, c] =>
        if isSecond a b then
          if isTail c then [replacement] else replacement :: decodeLossy [c]
        else replacement :: decodeLossy [b, c]
      | [b] => if isSecond a b then [replacement] else replacement :: decodeLossy [b]
      | [] => [replacement]
    else replacement :: decodeLossy r

/-- The text that `bytes` encodes, if it encodes one: bytes that are no text do not come back from
their lossy decoding. -/
def decode? (bytes : Bytes) : Option (List Char) :=
  let cs := decodeLossy bytes
  if encode cs = bytes then some cs else none

end Utf8

/-- The bytes of a string. -/
def toBytes (s : String) : Bytes :=
  Utf8.encode s.toList

/-- The text of any bytes, as a string. -/
def ofBytes (bytes : Bytes) : String :=
  String.ofList (Utf8.decodeLossy bytes)

end Tracepoint.Text
