import Mathlib
import Tracepoint.Proofs.Event.Fields
import Tracepoint.Proofs.Text.Encoded

/-!
# Headers survive the trip

A header is written by one party and read back by another.  The writer cuts the bytes of the name,
in the middle of a character if need be, and fills the field up with NUL bytes; the reader stops at
the first NUL byte and makes a text of what came before.

* `Bytes.isKept_iff` — cutting first and looking for a NUL byte then finds the longest front that
  fits and has none;
* `Header.decode_encode` — a header is read back with the text of that front for its name;
* `Header.trip_contract` — so it is read back as it was, if its name fits.
-/

set_option autoImplicit false

namespace Tracepoint

namespace Bytes

/-! ## The longest front without NUL bytes -/

/-- The longest bytes at the front with a length of `limit` at most and no NUL byte among them. -/
structure IsKept (limit : Nat) (bytes kept : Bytes) : Prop where
  isFront : kept <+: bytes
  length_le : kept.length ≤ limit
  zero_notMem : 0 ∉ kept
  longest : ∀ front, front <+: bytes → front.length ≤ limit → 0 ∉ front →
    front.length ≤ kept.length

theorem zero_notMem_untilNul (buffer : Bytes) : 0 ∉ untilNul buffer := by
  intro h
  simpa using List.mem_takeWhile_imp h

theorem untilNul_eq_self {bytes : Bytes} (h : 0 ∉ bytes) : untilNul bytes = bytes := by
  refine List.takeWhile_eq_self_iff.mpr fun b hb => ?_
  rw [decide_eq_true_eq]
  rintro rfl
  exact h hb

/-- Nothing is read of the NUL bytes that fill a field up. -/
theorem untilNul_append_zeros (bytes : Bytes) (count : Nat) :
    untilNul (bytes ++ List.replicate count 0) = untilNul bytes := by
  induction bytes with
  | nil => cases count <;> rfl
  | cons b bytes ih =>
    by_cases hb : b = 0
    · subst hb
      rfl
    · simpa [untilNul, hb] using ih

theorem untilNul_padded {size : Nat} {bytes : Bytes} (h : bytes.length ≤ size) :
    untilNul (bytes.padded size) = untilNul bytes := by
  rw [padded, List.take_of_length_le h, untilNul_append_zeros]

/-- A field that is not full ends with a NUL byte. -/
theorem getLast?_padded {size : Nat} {bytes : Bytes} (h : bytes.length < size) :
    (bytes.padded size).getLast? = some 0 := by
  obtain ⟨count, hcount⟩ : ∃ count, size - bytes.length = count + 1 :=
    ⟨size - bytes.length - 1, by omega⟩
  rw [padded, hcount, List.replicate_succ', ← List.append_assoc, List.getLast?_concat]

variable {limit : Nat} {bytes kept : Bytes}

/-- A front without NUL bytes is no longer than what is before the first one. -/
theorem length_le_untilNul {front : Bytes} (hfront : front <+: bytes) (hzero : 0 ∉ front) :
    front.length ≤ (untilNul bytes).length := by
  obtain ⟨rest, rfl⟩ := hfront
  have hall : ∀ b ∈ front, decide (b ≠ 0) = true := by
    intro b hb
    rw [decide_eq_true_eq]
    rintro rfl
    exact hzero hb
  rw [untilNul, List.takeWhile_append_of_pos hall, List.length_append]
  exact Nat.le_add_right _ _

theorem isKept_untilNul (limit : Nat) (bytes : Bytes) :
    IsKept limit bytes (untilNul (bytes.take limit)) where
  isFront := (List.takeWhile_prefix _).trans (List.take_prefix _ _)
  length_le := (List.takeWhile_prefix _).length_le.trans (List.length_take_le _ _)
  zero_notMem := zero_notMem_untilNul _
  longest _ hfront hlength hzero :=
    length_le_untilNul (List.prefix_take_iff.mpr ⟨hfront, hlength⟩) hzero

/-- **There is one such front**, found by cutting first and looking for a NUL byte then. -/
theorem isKept_iff : IsKept limit bytes kept ↔ kept = untilNul (bytes.take limit) := by
  constructor
  · intro h
    have hcut := isKept_untilNul limit bytes
    have hle := hcut.longest kept h.isFront h.length_le h.zero_notMem
    have hge := h.longest _ hcut.isFront hcut.length_le hcut.zero_notMem
    exact (List.prefix_of_prefix_length_le h.isFront hcut.isFront hle).eq_of_length (by omega)
  · rintro rfl
    exact isKept_untilNul limit bytes

end Bytes

/-! ## The name field -/

namespace Header

theorem length_cut (name : String) :
    ((Text.toBytes name).take (nameSize - 1)).length < nameSize :=
  Nat.lt_of_le_of_lt (List.length_take_le _ _) (by decide)

theorem length_nameField (name : String) : (nameField name).length = nameSize :=
  Bytes.length_padded _ _

theorem nameBytes_eq (name : String) :
    nameBytes name = Bytes.untilNul ((Text.toBytes name).take (nameSize - 1)) :=
  Bytes.untilNul_padded (Nat.le_of_lt (length_cut name))

/-- A text has a NUL byte if and only if it has the NUL character. -/
theorem zero_mem_toBytes {s : String} : 0 ∈ Text.toBytes s ↔ '\x00' ∈ s.toList := by
  have hcount := Text.count_toBytes s (c := '\x00') (by decide)
  rw [← List.count_pos_iff, ← List.count_pos_iff, ← hcount]
  rfl

/-- A name that fits is kept. -/
theorem nameBytes_of_fits {name : String} (hlength : (Text.toBytes name).length ≤ nameSize - 1)
    (hnul : '\x00' ∉ name.toList) : nameBytes name = Text.toBytes name := by
  rw [nameBytes_eq, List.take_of_length_le hlength]
  exact Bytes.untilNul_eq_self (zero_mem_toBytes.not.mpr hnul)

/-- The header as it is read back: its name is the text of the bytes that were kept. -/
def received (header : Header) : Header :=
  { header with name := Text.ofBytes (nameBytes header.name) }

theorem received_of_fits {header : Header}
    (hlength : (Text.toBytes header.name).length ≤ nameSize - 1)
    (hnul : '\x00' ∉ header.name.toList) : header.received = header := by
  rw [received, nameBytes_of_fits hlength hnul, Text.ofBytes_toBytes]

theorem encode_received (header : Header) (trailing : Bytes) :
    header.encode ++ trailing =
      encodeNumbers header.received.timestamp header.received.pid header.received.ret ++
        (nameField header.name ++ trailing) :=
  List.append_assoc _ _ _

theorem length_encode (header : Header) : header.encode.length = size := by
  rw [encode, List.length_append, length_encodeNumbers, length_nameField, size]

theorem decode_encode (header : Header) (trailing : Bytes) :
    decode (header.encode ++ trailing) = .ok (header.received, trailing) := by
  have hlong : ¬ (header.encode ++ trailing).length < size := by
    rw [List.length_append, length_encode]
    omega
  have hfront : front (header.encode ++ trailing) = header.received := by
    rw [encode_received]
    exact front_record header.received (length_nameField header.name) rfl trailing
  rw [decode_eq, if_neg hlong, hfront, List.drop_left' (length_encode header)]

/-! ## The trip -/

/-- What becomes of a header that is written and read back. -/
structure TripContract (header : Header) : Prop where
  length_encode : header.encode.length = 88
  /-- The name field, at the end, ends with a NUL byte. -/
  field : header.encode.drop 24 = nameField header.name
  terminated : (nameField header.name).length = 64 ∧ (nameField header.name).getLast? = some 0
  /-- Of the name, its longest front of 63 bytes at most without a NUL byte is kept. -/
  kept_iff : ∀ kept, Bytes.IsKept 63 (Text.toBytes header.name) kept ↔
    kept = nameBytes header.name
  /-- The numbers are read back, with the text of what was kept, and nothing after them is. -/
  decoded : ∀ trailing, decode (header.encode ++ trailing) =
    .ok ({ header with name := Text.ofBytes (nameBytes header.name) }, trailing)
  /-- So is a name that fits. -/
  whole : (Text.toBytes header.name).length ≤ 63 → '\x00' ∉ header.name.toList →
    ∀ trailing, decode (header.encode ++ trailing) = .ok (header, trailing)

/-- **A header survives the trip**, but for what its name field has no room for. -/
theorem trip_contract (header : Header) : TripContract header where
  length_encode := length_encode header
  field := List.drop_left' (length_encodeNumbers _ _ _)
  terminated := ⟨length_nameField _, Bytes.getLast?_padded (length_cut _)⟩
  kept_iff kept := by
    rw [nameBytes_eq]
    exact Bytes.isKept_iff
  decoded := decode_encode header
  whole hlength hnul trailing := by
    rw [decode_encode, received_of_fits hlength hnul]

/-- A character that the cut splits is made up for. -/
example : (received ⟨0, 0, 0, String.ofList (List.replicate 62 'x' ++ ['é', '!'])⟩).name =
    String.ofList (List.replicate 62 'x' ++ ['\uFFFD']) := by
  decide +kernel

end Header

end Tracepoint
