import Tracepoint.Record.LittleEndian

/-!
# Packed layouts

A record is a sequence of fields without gaps.  A field is stored either as an integer of a fixed
width, little-endian and in two's complement if it is signed, or as a block of bytes.
-/

set_option autoImplicit false

namespace Tracepoint

/-- What a field holds. -/
inductive Value where
  | int (number : Int)
  | bytes (content : Bytes)
  deriving DecidableEq, Repr

/-- How a field is stored. -/
inductive Storage where
  | int (width : Nat) (signed : Bool)
  | block (size : Nat)
  deriving DecidableEq, Repr

namespace Storage

/-- Bytes that a field takes. -/
def size : Storage → Nat
  | .int width _ => width
  | .block size => size

/-- The values that a field can hold. -/
def Fits : Storage → Value → Prop
  | .int width true, .int i =>
    -(LittleEndian.capacity width : Int) ≤ 2 * i ∧ 2 * i < (LittleEndian.capacity width : Int)
  | .int width false, .int i => 0 ≤ i ∧ i < (LittleEndian.capacity width : Int)
  | .block size, .bytes b => b.length = size
  | _, _ => False

instance : (s : Storage) → (v : Value) → Decidable (s.Fits v)
  | .int _ true, .int _ => inferInstanceAs (Decidable (_ ∧ _))
  | .int _ false, .int _ => inferInstanceAs (Decidable (_ ∧ _))
  | .block _, .bytes _ => inferInstanceAs (Decidable (_ = _))
  | .int _ true, .bytes _ => inferInstanceAs (Decidable False)
  | .int _ false, .bytes _ => inferInstanceAs (Decidable False)
  | .block _, .int _ => inferInstanceAs (Decidable False)

/-- The bytes of a field.  A number is taken modulo the width, a block is cut or filled up with
NUL bytes, and a value of the wrong shape leaves the field zero. -/
def encode : Storage → Value → Bytes
  | .int width _, .int i =>
    LittleEndian.ofNat width (i % (LittleEndian.capacity width : Int)).toNat
  | .block size, .bytes b => b.padded size
  | s, _ => List.replicate s.size 0

/-- The value in the bytes of a field. -/
def decode : Storage → Bytes → Value
  | .int width true, bytes =>
    .int (Int.bmod (LittleEndian.toNat bytes) (LittleEndian.capacity width))
  | .int _ false, bytes => .int (LittleEndian.toNat bytes)
  | .block _, bytes => .bytes bytes

/-- The field at the front, and the bytes after it. -/
def read (s : Storage) (bytes : Bytes) : Value × Bytes :=
  (s.decode (bytes.take s.size), bytes.drop s.size)

end Storage

/-- The fields of a record, in order. -/
abbrev Layout := List Storage

namespace Layout

/-- Bytes that a record takes. -/
def size : Layout → Nat
  | [] => 0
  | s :: layout => s.size + size layout

/-- The bytes of a record with the given field values. -/
def encode (layout : Layout) (values : List Value) : Bytes :=
  (List.zipWith Storage.encode layout values).flatten

/-- The field values of the record at the front, and the bytes after it. -/
def read : Layout → Bytes → List Value × Bytes
  | [], bytes => ([], bytes)
  | s :: layout, bytes =>
    let (value, rest) := s.read bytes
    let (values, rest) := read layout rest
    (value :: values, rest)

end Layout

end Tracepoint
