import Mathlib
import Tracepoint.Proofs.Text.Lossy

/-!
# Texts come back from their bytes

Lossy decoding invents nothing where there is nothing to make up for: each character that was
encoded is taken from the front of the bytes as it was.

* `Utf8.decodeLossy_encodeChar` — a character is read back, whatever follows it;
* `Utf8.decodeLossy_encode`, `ofBytes_toBytes` — so is a whole text.
-/

set_option autoImplicit false

namespace Tracepoint.Text

namespace Utf8

/-! ## Bytes within bounds -/

/-- The bounds of a number as bounds of a byte. -/
theorem within {lo b hi : UInt8} (hlo : lo.toNat ≤ b.toNat) (hhi : b.toNat ≤ hi.toNat) :
    (lo ≤ b && b ≤ hi) = true := by
  rw [Bool.and_eq_true, decide_eq_true_eq, decide_eq_true_eq]
  exact ⟨UInt8.le_iff_toNat_le.mpr hlo, UInt8.le_iff_toNat_le.mpr hhi⟩

theorem not_within {lo b hi : UInt8} (h : hi.toNat < b.toNat) : ¬ (lo ≤ b && b ≤ hi) = true :=
  fun hbounds => Nat.not_le_of_lt h (toNat_bounds hbounds).2

theorem toNat_ofNat_of_lt {n : Nat} (h : n < 256) : (UInt8.ofNat n).toNat = n := by
  rw [UInt8.toNat_ofNat', Nat.mod_eq_of_lt h]

theorem not_lt_of_le {a b : UInt8} (h : b.toNat ≤ a.toNat) : ¬ a < b :=
  UInt8.not_lt.mpr (UInt8.le_iff_toNat_le.mpr h)

variable {a b c d : UInt8}

/-- A byte that can follow another one is a second byte, if it respects the narrow ranges. -/
theorem isSecond_of_isTail (hb : isTail b = true) (hE0 : a.toNat = 0xE0 → 0xA0 ≤ b.toNat)
    (hED : a.toNat = 0xED → b.toNat ≤ 0x9F) (hF0 : a.toNat = 0xF0 → 0x90 ≤ b.toNat)
    (hF4 : a.toNat = 0xF4 → b.toNat ≤ 0x8F) : isSecond a b = true := by
  obtain ⟨hlo, hhi⟩ := toNat_bounds hb
  unfold isSecond
  split_ifs with h h h h
  · exact within (hE0 (congrArg UInt8.toNat h)) hhi
  · exact within hlo (hED (congrArg UInt8.toNat h))
  · exact within (hF0 (congrArg UInt8.toNat h)) hhi
  · exact within hlo (hF4 (congrArg UInt8.toNat h))
  · exact hb

/-! ## Characters by their first byte -/

theorem decodeLossy_one (ha : a < 0x80) (rest : Bytes) :
    decodeLossy (a :: rest) = Char.ofNat a.toNat :: decodeLossy rest := by
  rw [decodeLossy.eq_def]
  exact if_pos ha

theorem decodeLossy_two (hlo : 0xC2 ≤ a.toNat) (hhi : a.toNat ≤ 0xDF) (hb : isSecond a b = true)
    (rest : Bytes) : decodeLossy (a :: b :: rest) = join2 a b :: decodeLossy rest := by
  have hone : ¬ a < 0x80 := not_lt_of_le (Nat.le_trans (by decide) hlo)
  have htwo : (0xC2 ≤ a && a ≤ 0xDF) = true := within hlo hhi
  rw [decodeLossy, if_neg hone, if_pos htwo]
  simp only [hb, if_true]

theorem decodeLossy_three (hlo : 0xE0 ≤ a.toNat) (hhi : a.toNat ≤ 0xEF)
    (hb : isSecond a b = true) (hc : isTail c = true) (rest : Bytes) :
    decodeLossy (a :: b :: c :: rest) = join3 a b c :: decodeLossy rest := by
  have hone : ¬ a < 0x80 := not_lt_of_le (Nat.le_trans (by decide) hlo)
  have htwo : ¬ (0xC2 ≤ a && a ≤ 0xDF) = true := not_within (Nat.le_trans (by decide) hlo)
  have hthree : (0xE0 ≤ a && a ≤ 0xEF) = true := within hlo hhi
  rw [decodeLossy, if_neg hone, if_neg htwo, if_pos hthree]
  simp only [hb, hc, if_true]

theorem decodeLossy_four (hlo : 0xF0 ≤ a.toNat) (hhi : a.toNat ≤ 0xF4)
    (hb : isSecond a b = true) (hc : isTail c = true) (hd : isTail d = true) (rest : Bytes) :
    decodeLossy (a :: b :: c :: d :: rest) = join4 a b c d :: decodeLossy rest := by
  have hone : ¬ a < 0x80 := not_lt_of_le (Nat.le_trans (by decide) hlo)
  have htwo : ¬ (0xC2 ≤ a && a ≤ 0xDF) = true := not_within (Nat.le_trans (by decide) hlo)
  have hthree : ¬ (0xE0 ≤ a && a ≤ 0xEF) = true := not_within hlo
  have hfour : (0xF0 ≤ a && a ≤ 0xF4) = true := within hlo hhi
  rw [decodeLossy, if_neg hone, if_neg htwo, if_neg hthree, if_pos hfour]
  simp only [hb, hc, hd, if_true]

/-! ## Characters by their number -/

theorem toNat_tail (n : Nat) : (UInt8.ofNat (n % 64 + 128)).toNat = n % 64 + 128 :=
  toNat_ofNat_of_lt (by omega)

theorem isTail_ofNat (n : Nat) : isTail (UInt8.ofNat (n % 64 + 128)) = true := by
  refine within ?_ ?_
  · rw [toNat_tail]
    exact Nat.le_add_left _ _
  · rw [toNat_tail]
    show n % 64 + 128 ≤ 191
    omega

/-- **A character is read back from its bytes**, whatever follows it. -/
theorem decodeLossy_encodeChar (x : Char) (rest : Bytes) :
    decodeLossy (String.utf8EncodeChar x ++ rest) = x :: decodeLossy rest := by
  obtain ⟨n, hn⟩ : ∃ n, x.toNat = n := ⟨_, rfl⟩
  have hvalid : n < 0xD800 ∨ 0xDFFF < n ∧ n < 0x110000 := hn ▸ x.valid
  have hchar : Char.ofNat n = x := by rw [← hn, Char.ofNat_toNat]
  have hval : x.val.toNat = n := hn
  simp only [String.utf8EncodeChar, hval]
  split_ifs with h1 h2 h3
  · have hbyte : (UInt8.ofNat n).toNat = n := toNat_ofNat_of_lt (by omega)
    have hone : UInt8.ofNat n < 0x80 := by
      rw [UInt8.lt_iff_toNat_lt, hbyte]
      exact Nat.lt_succ_of_le h1
    rw [List.singleton_append, decodeLossy_one hone, hbyte, hchar]
  · have ha : (UInt8.ofNat (n / 64 % 32 + 192)).toNat = n / 64 % 32 + 192 :=
      toNat_ofNat_of_lt (by omega)
    have hb := toNat_tail n
    have hsecond := isSecond_of_isTail (a := UInt8.ofNat (n / 64 % 32 + 192)) (isTail_ofNat n)
      (by omega) (by omega) (by omega) (by omega)
    have hjoin : (n / 64 % 32 + 192) % 32 * 64 + (n % 64 + 128) % 64 = n := by omega
    rw [List.cons_append, List.singleton_append,
      decodeLossy_two (by omega) (by omega) hsecond, join2, tailBits, ha, hb, hjoin, hchar]
  · have ha : (UInt8.ofNat (n / 4096 % 16 + 224)).toNat = n / 4096 % 16 + 224 :=
      toNat_ofNat_of_lt (by omega)
    have hb := toNat_tail (n / 64)
    have hc := toNat_tail n
    -- numbers from 0x800 on have no overlong form, and characters are no surrogates
    have hsecond := isSecond_of_isTail (a := UInt8.ofNat (n / 4096 % 16 + 224))
      (isTail_ofNat (n / 64)) (by omega) (by omega) (by omega) (by omega)
    have hjoin : ((n / 4096 % 16 + 224) % 16 * 64 + (n / 64 % 64 + 128) % 64) * 64 +
        (n % 64 + 128) % 64 = n := by omega
    rw [List.cons_append, List.cons_append, List.singleton_append,
      decodeLossy_three (by omega) (by omega) hsecond (isTail_ofNat n), join3, tailBits, tailBits,
      ha, hb, hc, hjoin, hchar]
  · have ha : (UInt8.ofNat (n / 262144 % 8 + 240)).toNat = n / 262144 % 8 + 240 :=
      toNat_ofNat_of_lt (by omega)
    have hb := toNat_tail (n / 4096)
    have hc := toNat_tail (n / 64)
    have hd := toNat_tail n
    -- nor have those from 0x10000 on, and the last code point is 0x10FFFF
    have hsecond := isSecond_of_isTail (a := UInt8.ofNat (n / 262144 % 8 + 240))
      (isTail_ofNat (n / 4096)) (by omega) (by omega) (by omega) (by omega)
    have hjoin : (((n / 262144 % 8 + 240) % 8 * 64 + (n / 4096 % 64 + 128) % 64) * 64 +
        (n / 64 % 64 + 128) % 64) * 64 + (n % 64 + 128) % 64 = n := by omega
    rw [List.cons_append, List.cons_append, List.cons_append, List.singleton_append,
      decodeLossy_four (by omega) (by omega) hsecond (isTail_ofNat (n / 64)) (isTail_ofNat n),
      join4, tailBits, tailBits, tailBits, ha, hb, hc, hd, hjoin, hchar]

/-! ## Texts -/

/-- **A text is read back from its bytes.** -/
theorem decodeLossy_encode (cs : List Char) : decodeLossy (encode cs) = cs := by
  induction cs with
  | nil => rfl
  | cons c cs ih =>
    rw [encode, List.flatMap_cons, decodeLossy_encodeChar]
    exact congrArg (c :: ·) ih

end Utf8

/-- A string is the text of its bytes. -/
theorem ofBytes_toBytes (s : String) : ofBytes (toBytes s) = s := by
  rw [ofBytes, toBytes, Utf8.decodeLossy_encode, String.ofList_toList]

end Tracepoint.Text
