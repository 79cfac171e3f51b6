import Mathlib
import Tracepoint.Record.Layout

/-!
# Packed records survive the trip

Writing a record and reading it back gives the values that were written, and reading bytes and
writing the values again gives the bytes that were read, whatever follows them.

* `Storage.decode_encode`, `Storage.encode_decode` — one field, in both directions;
* `Layout.read_encode_append` — values that fit are read back, and the bytes after them are left;
* `Layout.encode_read` — what is read spells the bytes it was read from;
* `Layout.read_append` — bytes after a complete record change nothing;
* `Bytes.read64_fst` and its kin — the reads of the decoders are reads of fields.
-/

set_option autoImplicit false

namespace Tracepoint

/-! ## Little-endian numbers -/

namespace LittleEndian

theorem capacity_pos : ∀ width, 0 < capacity width
  | 0 => Nat.one_pos
  | width + 1 => Nat.mul_pos (by decide) (capacity_pos width)

@[simp] theorem length_ofNat (width n : Nat) : (ofNat width n).length = width := by
  induction width generalizing n with
  | zero => rfl
  | succ width ih => simp [ofNat, ih]

theorem toNat_lt (bytes : Bytes) : toNat bytes < capacity bytes.length := by
  induction bytes with
  | nil => exact Nat.one_pos
  | cons b bytes ih =>
    have hb : b.toNat < 256 := b.toNat_lt
    simp only [toNat, List.length_cons, capacity]
    omega

theorem capacity_mono {m n : Nat} (h : m ≤ n) : capacity m ≤ capacity n := by
  induction h with
  | refl => exact Nat.le_refl _
  | step _ ih =>
    rw [capacity]
    omega

theorem toNat_take_lt (width : Nat) (bytes : Bytes) :
    toNat (bytes.take width) < capacity width :=
  Nat.lt_of_lt_of_le (toNat_lt _) (capacity_mono (List.length_take_le _ _))

/-- Writing a number and reading it back keeps what the width can hold. -/
theorem toNat_ofNat (width n : Nat) : toNat (ofNat width n) = n % capacity width := by
  induction width generalizing n with
  | zero => simp [ofNat, toNat, capacity, Nat.mod_one]
  | succ width ih =>
    have hbyte : (UInt8.ofNat (n % 256)).toNat = n % 256 := by
      rw [UInt8.toNat_ofNat', Nat.mod_eq_of_lt (by omega)]
    rw [ofNat, toNat, hbyte, ih, capacity, Nat.mod_mul]

theorem ofNat_toNat (bytes : Bytes) : ofNat bytes.length (toNat bytes) = bytes := by
  induction bytes with
  | nil => rfl
  | cons b bytes ih =>
    have hb : b.toNat < 256 := b.toNat_lt
    have hlow : (b.toNat + 256 * toNat bytes) % 256 = b.toNat := by omega
    have hhigh : (b.toNat + 256 * toNat bytes) / 256 = toNat bytes := by omega
    rw [List.length_cons, toNat, ofNat, hlow, hhigh, ih, UInt8.ofNat_toNat]

end LittleEndian

/-! ## One field -/

theorem Bytes.length_padded (size : Nat) (content : Bytes) :
    (content.padded size).length = size := by
  simp only [padded, List.length_append, List.length_take, List.length_replicate]
  omega

theorem Bytes.padded_of_length {size : Nat} {content : Bytes} (h : content.length = size) :
    content.padded size = content := by
  subst h
  simp [padded]

namespace Storage

open LittleEndian

@[simp] theorem length_encode (s : Storage) (v : Value) : (s.encode v).length = s.size := by
  cases s <;> cases v <;> simp [encode, size, Bytes.length_padded]

/-- **A value that fits is read back from its bytes.** -/
theorem decode_encode {s : Storage} {v : Value} (h : s.Fits v) : s.decode (s.encode v) = v := by
  cases s with
  | int width signed =>
    cases v with
    | bytes b => cases signed <;> exact h.elim
    | int i =>
      have hcap : (0 : Int) < capacity width := by exact_mod_cast capacity_pos width
      have hmod : ((i % (capacity width : Int)).toNat : Int) = i % capacity width :=
        Int.toNat_of_nonneg (Int.emod_nonneg _ hcap.ne')
      have hback : (toNat (ofNat width (i % (capacity width : Int)).toNat) : Int) =
          i % capacity width := by
        have := Int.emod_lt_of_pos i hcap
        rw [toNat_ofNat, Nat.mod_eq_of_lt (by omega), hmod]
      cases signed with
      | true =>
        obtain ⟨hlo, hhi⟩ := h
        rw [encode, decode, hback, Int.emod_bmod,
          Int.bmod_eq_of_le_mul_two (by omega) (by omega)]
      | false =>
        obtain ⟨hlo, hhi⟩ := h
        rw [encode, decode, hback, Int.emod_eq_of_lt hlo hhi]
  | block size =>
    cases v with
    | int i => exact h.elim
    | bytes b => rw [encode, decode, Bytes.padded_of_length h]

theorem fits_decode {s : Storage} {bytes : Bytes} (h : bytes.length = s.size) :
    s.Fits (s.decode bytes) := by
  cases s with
  | int width signed =>
    have hlen : bytes.length = width := h
    have hlt := toNat_lt bytes
    rw [hlen] at hlt
    cases signed with
    | true =>
      have hcap := capacity_pos width
      have hlo := Int.le_bmod (x := (toNat bytes : Int)) hcap
      have hhi := Int.bmod_lt (x := (toNat bytes : Int)) hcap
      simp only [decode, Fits]
      omega
    | false => exact ⟨Int.natCast_nonneg _, by exact_mod_cast hlt⟩
  | block size => exact h

/-- **Writing what was read gives the bytes that were read.** -/
theorem encode_decode {s : Storage} {bytes : Bytes} (h : bytes.length = s.size) :
    s.encode (s.decode bytes) = bytes := by
  cases s with
  | int width signed =>
    have hlen : bytes.length = width := h
    have hlt := toNat_lt bytes
    rw [hlen] at hlt
    have hnat : ((toNat bytes : Int) % capacity width).toNat = toNat bytes := by
      rw [Int.emod_eq_of_lt (Int.natCast_nonneg _) (by exact_mod_cast hlt), Int.toNat_natCast]
    have hback : ofNat width (toNat bytes) = bytes := by
      rw [← hlen, ofNat_toNat]
    cases signed with
    | true => simp only [decode, encode, Int.bmod_emod, hnat, hback]
    | false => simp only [decode, encode, hnat, hback]
  | block size =>
    have hlen : bytes.length = size := h
    rw [decode, encode, Bytes.padded_of_length hlen]

theorem read_encode_append {s : Storage} {v : Value} (h : s.Fits v) (rest : Bytes) :
    s.read (s.encode v ++ rest) = (v, rest) := by
  have hlen := length_encode s v
  rw [read, List.take_left' hlen, List.drop_left' hlen, decode_encode h]

theorem encode_read {s : Storage} {bytes : Bytes} (h : s.size ≤ bytes.length) :
    s.encode (s.read bytes).1 = bytes.take s.size :=
  encode_decode (by simp [h])

end Storage

/-! ## Whole records -/

namespace Layout

/-- Values for the fields of a record, each of which its field can hold. -/
def Fits (layout : Layout) (values : List Value) : Prop :=
  List.Forall₂ Storage.Fits layout values

@[simp] theorem encode_cons (s : Storage) (layout : Layout) (v : Value) (values : List Value) :
    encode (s :: layout) (v :: values) = s.encode v ++ encode layout values := rfl

theorem length_encode {layout : Layout} {values : List Value}
    (h : values.length = layout.length) : (encode layout values).length = size layout := by
  induction layout generalizing values with
  | nil => rfl
  | cons s layout ih =>
    cases values with
    | nil => cases h
    | cons v values => simp [size, ih (Nat.succ.inj h)]

@[simp] theorem length_read (layout : Layout) (bytes : Bytes) :
    (layout.read bytes).1.length = layout.length := by
  induction layout generalizing bytes with
  | nil => rfl
  | cons s layout ih => simp [read, ih]

/-- Reading a record consumes its size, no more and no less. -/
theorem read_snd (layout : Layout) (bytes : Bytes) :
    (layout.read bytes).2 = bytes.drop layout.size := by
  induction layout generalizing bytes with
  | nil => simp [read, size]
  | cons s layout ih => simp [read, size, Storage.read, ih]

/-- **Values that fit are read back from a record, and what follows it is left.** -/
theorem read_encode_append {layout : Layout} {values : List Value} (h : layout.Fits values)
    (rest : Bytes) : layout.read (layout.encode values ++ rest) = (values, rest) := by
  induction h with
  | nil => rfl
  | cons hv _ ih =>
    rw [encode_cons, List.append_assoc, read, Storage.read_encode_append hv]
    simp only [ih]

theorem fits_read {layout : Layout} {bytes : Bytes} (h : layout.size ≤ bytes.length) :
    layout.Fits (layout.read bytes).1 := by
  induction layout generalizing bytes with
  | nil => exact .nil
  | cons s layout ih =>
    rw [size] at h
    exact .cons (Storage.fits_decode (by simp; omega)) (ih (by simp; omega))

/-- **The values of a record spell the bytes that they were read from.** -/
theorem encode_read {layout : Layout} {bytes : Bytes} (h : layout.size ≤ bytes.length) :
    layout.encode (layout.read bytes).1 = bytes.take layout.size := by
  induction layout generalizing bytes with
  | nil => simp [read, encode, size]
  | cons s layout ih =>
    rw [size] at h
    have hs : s.encode (s.read bytes).1 = bytes.take s.size := Storage.encode_read (by omega)
    have hrest := @ih (bytes.drop s.size) (by simp; omega)
    calc encode (s :: layout) (read (s :: layout) bytes).1
        = s.encode (s.read bytes).1 ++ encode layout (read layout (bytes.drop s.size)).1 := rfl
      _ = bytes.take s.size ++ (bytes.drop s.size).take (size layout) := by rw [hs, hrest]
      _ = bytes.take (s.size + size layout) := List.take_add.symm

/-- Bytes after a complete record do not change what is read from it. -/
theorem read_append {layout : Layout} {bytes : Bytes} (h : layout.size ≤ bytes.length)
    (extra : Bytes) : (layout.read (bytes ++ extra)).1 = (layout.read bytes).1 := by
  have hfits := fits_read h
  have hsplit : bytes ++ extra =
      layout.encode (layout.read bytes).1 ++ (bytes.drop layout.size ++ extra) := by
    rw [encode_read h, ← List.append_assoc, List.take_append_drop]
  rw [hsplit, read_encode_append hfits]

end Layout

/-! ## Fixed-width reads

The reads of the decoders take the fields of the same width off the front. -/

namespace Bytes

open LittleEndian

theorem read16_fst (bytes : Bytes) :
    Value.int bytes.read16.1.toNat = ((Storage.int 2 false).read bytes).1 := by
  have h : toNat (bytes.take 2) < UInt16.size := toNat_take_lt 2 bytes
  rw [read16, UInt16.toNat_ofNat_of_lt' h]
  rfl

theorem read32_fst (bytes : Bytes) :
    Value.int bytes.read32.1.toNat = ((Storage.int 4 false).read bytes).1 := by
  have h : toNat (bytes.take 4) < UInt32.size := toNat_take_lt 4 bytes
  rw [read32, UInt32.toNat_ofNat_of_lt' h]
  rfl

theorem read64_fst (bytes : Bytes) :
    Value.int bytes.read64.1.toNat = ((Storage.int 8 false).read bytes).1 := by
  have h : toNat (bytes.take 8) < UInt64.size := toNat_take_lt 8 bytes
  rw [read64, UInt64.toNat_ofNat_of_lt' h]
  rfl

theorem readSigned64_fst (bytes : Bytes) :
    Value.int bytes.readSigned64.1.toInt = ((Storage.int 8 true).read bytes).1 := by
  have h : toNat (bytes.take 8) < UInt64.size := toNat_take_lt 8 bytes
  have hword : bytes.read64.1.toInt64.toInt = Int.bmod (toNat (bytes.take 8)) (2 ^ 64) := by
    rw [← Int64.toInt_toBitVec, BitVec.toInt_eq_toNat_bmod, UInt64.toBitVec_toInt64,
      UInt64.toNat_toBitVec, read64, UInt64.toNat_ofNat_of_lt' h]
  rw [readSigned64, hword]
  rfl

end Bytes

end Tracepoint
