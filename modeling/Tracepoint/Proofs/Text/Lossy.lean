import Mathlib
import Tracepoint.Descriptor.Path
import Tracepoint.Text.Utf8

/-!
# ASCII survives

Lossy decoding may change a byte string beyond recognition, but it neither makes nor loses ASCII:
an ASCII byte becomes its character, and a byte that is not ASCII becomes, with those of its kind
that it takes along, one character that is not ASCII.  Encoding a text is related to it in the same
way, and what both have in common is proved of the relation.

* `Utf8.keepsAscii_decodeLossy`, `Utf8.keepsAscii_encode` — the relation holds of both;
* `Utf8.count_decodeLossy`, `count_toBytes` — as often as a character of ASCII is in the bytes, it
  is in the text;
* `ofBytes_eq_iff` — a text of ASCII comes from its own bytes alone;
* `head?_ofBytes` — the text of a path starts with a slash if and only if the path is absolute.
-/

set_option autoImplicit false

namespace Tracepoint.Text

namespace Utf8

/-- A text of nothing but ASCII. -/
def IsAscii (cs : List Char) : Prop :=
  ∀ c ∈ cs, c.toNat < 128

instance (cs : List Char) : Decidable (IsAscii cs) :=
  decidable_of_iff (cs.all fun c => c.toNat < 128) (by simp [IsAscii])

theorem IsAscii.append {cs ds : List Char} (hcs : IsAscii cs) (hds : IsAscii ds) :
    IsAscii (cs ++ ds) := by
  intro c hc
  exact (List.mem_append.mp hc).elim (hcs c) (hds c)

/-! ## What decoding and encoding have in common -/

/-- Bytes and a text that have their ASCII in common, in order. -/
inductive KeepsAscii : Bytes → List Char → Prop where
  | nil : KeepsAscii [] []
  | ascii {a : UInt8} {r : Bytes} {cs : List Char} (ha : a < 0x80) (h : KeepsAscii r cs) :
      KeepsAscii (a :: r) (Char.ofNat a.toNat :: cs)
  | other {a : UInt8} (taken : Bytes) {r : Bytes} {c : Char} {cs : List Char} (ha : 0x80 ≤ a)
      (htaken : ∀ b ∈ taken, 0x80 ≤ b) (hc : 128 ≤ c.toNat) (h : KeepsAscii r cs) :
      KeepsAscii (a :: (taken ++ r)) (c :: cs)

theorem toNat_ofNat_of_valid {n : Nat} (h : n.isValidChar) : (Char.ofNat n).toNat = n := by
  rw [Char.toNat_ofNat, if_pos h]

/-- The byte of an ASCII character. -/
theorem toNat_byte {c : Char} (h : c.toNat < 128) : (UInt8.ofNat c.toNat).toNat = c.toNat := by
  rw [UInt8.toNat_ofNat', Nat.mod_eq_of_lt (by omega)]

theorem byte_lt {c : Char} (h : c.toNat < 128) : UInt8.ofNat c.toNat < 0x80 := by
  rw [UInt8.lt_iff_toNat_lt, toNat_byte h]
  exact h

theorem ofNat_byte {c : Char} (h : c.toNat < 128) :
    Char.ofNat (UInt8.ofNat c.toNat).toNat = c := by
  rw [toNat_byte h, Char.ofNat_toNat]

theorem byte_ofNat {a : UInt8} (h : a < 0x80) : UInt8.ofNat (Char.ofNat a.toNat).toNat = a := by
  have ha : a.toNat < 128 := UInt8.lt_iff_toNat_lt.mp h
  rw [toNat_ofNat_of_valid (.inl (by omega)), UInt8.ofNat_toNat]

namespace KeepsAscii

variable {bytes : Bytes} {cs : List Char} {c : Char}

/-- **A character of ASCII is in the text as often as in the bytes.** -/
theorem count (h : KeepsAscii bytes cs) (hc : c.toNat < 128) :
    cs.count c = bytes.count (UInt8.ofNat c.toNat) := by
  induction h with
  | nil => rfl
  | @ascii a r cs ha _ ih =>
    have hsame : Char.ofNat a.toNat = c ↔ a = UInt8.ofNat c.toNat := by
      constructor
      · rintro rfl
        exact (byte_ofNat ha).symm
      · rintro rfl
        exact ofNat_byte hc
    rw [List.count_cons, List.count_cons, ih]
    simp only [beq_iff_eq, hsame]
  | @other a taken r d cs ha htaken hd _ ih =>
    have hd : d ≠ c := by
      rintro rfl
      omega
    have hout : UInt8.ofNat c.toNat ∉ a :: taken := by
      rintro hmem
      rcases List.mem_cons.mp hmem with rfl | hmem
      · exact UInt8.not_lt.mpr ha (byte_lt hc)
      · exact UInt8.not_lt.mpr (htaken _ hmem) (byte_lt hc)
    rw [List.count_cons_of_ne hd, ← List.cons_append, List.count_append, ih,
      List.count_eq_zero_of_not_mem hout, Nat.zero_add]

theorem head? (h : KeepsAscii bytes cs) (hc : c.toNat < 128) :
    cs.head? = some c ↔ bytes.head? = some (UInt8.ofNat c.toNat) := by
  cases h with
  | nil => simp
  | ascii ha _ =>
    simp only [List.head?_cons, Option.some.injEq]
    constructor
    · rintro rfl
      exact (byte_ofNat ha).symm
    · rintro rfl
      exact ofNat_byte hc
  | other taken ha _ hd _ =>
    simp only [List.head?_cons, Option.some.injEq]
    constructor
    · rintro rfl
      omega
    · rintro rfl
      exact absurd (byte_lt hc) (UInt8.not_lt.mpr ha)

/-- A text of nothing but ASCII comes from its own bytes. -/
theorem bytes_eq (h : KeepsAscii bytes cs) (hcs : IsAscii cs) :
    bytes = cs.map fun c => UInt8.ofNat c.toNat := by
  induction h with
  | nil => rfl
  | ascii ha _ ih => rw [List.map_cons, byte_ofNat ha, ← ih fun c hc => hcs c (.tail _ hc)]
  | other _ _ _ hd _ =>
    have := hcs _ List.mem_cons_self
    omega

/-- Bytes of nothing but ASCII become their own characters. -/
theorem text_eq (h : KeepsAscii bytes cs) (hbytes : ∀ b ∈ bytes, b < 0x80) :
    cs = bytes.map fun b => Char.ofNat b.toNat := by
  induction h with
  | nil => rfl
  | ascii _ _ ih => rw [List.map_cons, ← ih fun b hb => hbytes b (.tail _ hb)]
  | other _ ha _ _ _ => exact absurd (hbytes _ List.mem_cons_self) (UInt8.not_lt.mpr ha)

end KeepsAscii

/-! ## Decoding -/

theorem le_of_bounds {lo b hi : UInt8} (h : (lo ≤ b && b ≤ hi) = true) (hlo : 0x80 ≤ lo) :
    0x80 ≤ b := by
  rw [Bool.and_eq_true, decide_eq_true_eq] at h
  exact UInt8.le_trans hlo h.1

theorem le_of_isTail {b : UInt8} (h : isTail b) : 0x80 ≤ b :=
  le_of_bounds h (by decide)

theorem le_of_isSecond {a b : UInt8} (h : isSecond a b) : 0x80 ≤ b := by
  unfold isSecond at h
  split_ifs at h
  · exact le_of_bounds h (by decide)
  · exact le_of_bounds h (by decide)
  · exact le_of_bounds h (by decide)
  · exact le_of_bounds h (by decide)
  · exact le_of_isTail h

/-- The bounds of a byte as bounds of a number. -/
theorem toNat_bounds {lo b hi : UInt8} (h : (lo ≤ b && b ≤ hi) = true) :
    lo.toNat ≤ b.toNat ∧ b.toNat ≤ hi.toNat := by
  simpa only [Bool.and_eq_true, decide_eq_true_eq, UInt8.le_iff_toNat_le] using h

theorem le_join2 {a b : UInt8} (ha : (0xC2 ≤ a && a ≤ 0xDF) = true) :
    128 ≤ (join2 a b).toNat := by
  have ha := toNat_bounds ha
  simp only [UInt8.reduceToNat] at ha
  rw [join2, toNat_ofNat_of_valid]
  · omega
  · left
    unfold tailBits
    omega

theorem le_join3 {a b c : UInt8} (ha : (0xE0 ≤ a && a ≤ 0xEF) = true) (hb : isSecond a b) :
    128 ≤ (join3 a b c).toNat := by
  have ha := toNat_bounds ha
  simp only [UInt8.reduceToNat] at ha
  have hsecond : (a.toNat = 0xE0 → 0xA0 ≤ b.toNat ∧ b.toNat ≤ 0xBF) ∧
      (a.toNat = 0xED → 0x80 ≤ b.toNat ∧ b.toNat ≤ 0x9F) := by
    -- these ranges keep out the overlong forms and the surrogates
    constructor <;> intro h
    · obtain rfl : a = 0xE0 := UInt8.toNat_inj.mp h
      exact toNat_bounds hb
    · obtain rfl : a = 0xED := UInt8.toNat_inj.mp h
      exact toNat_bounds hb
  unfold join3 tailBits
  rw [toNat_ofNat_of_valid]
  · omega
  · unfold Nat.isValidChar
    omega

theorem le_join4 {a b c d : UInt8} (ha : (0xF0 ≤ a && a ≤ 0xF4) = true) (hb : isSecond a b) :
    128 ≤ (join4 a b c d).toNat := by
  have ha := toNat_bounds ha
  simp only [UInt8.reduceToNat] at ha
  have hsecond : (a.toNat = 0xF0 → 0x90 ≤ b.toNat ∧ b.toNat ≤ 0xBF) ∧
      (a.toNat = 0xF4 → 0x80 ≤ b.toNat ∧ b.toNat ≤ 0x8F) := by
    constructor <;> intro h
    · obtain rfl : a = 0xF0 := UInt8.toNat_inj.mp h
      exact toNat_bounds hb
    · obtain rfl : a = 0xF4 := UInt8.toNat_inj.mp h
      exact toNat_bounds hb
  unfold join4 tailBits
  rw [toNat_ofNat_of_valid]
  · omega
  · unfold Nat.isValidChar
    omega

theorem le_replacement : 128 ≤ replacement.toNat := by
  decide

namespace KeepsAscii

variable {a b c d : UInt8} {r : Bytes} {x : Char} {cs : List Char}

theorem other1 (ha : ¬ a < 0x80) (hx : 128 ≤ x.toNat) (h : KeepsAscii r cs) :
    KeepsAscii (a :: r) (x :: cs) :=
  .other [] (UInt8.not_lt.mp ha) (by simp) hx h

theorem other2 (ha : ¬ a < 0x80) (hb : 0x80 ≤ b) (hx : 128 ≤ x.toNat) (h : KeepsAscii r cs) :
    KeepsAscii (a :: b :: r) (x :: cs) :=
  .other [b] (UInt8.not_lt.mp ha) (by simp [hb]) hx h

theorem other3 (ha : ¬ a < 0x80) (hb : 0x80 ≤ b) (hc : 0x80 ≤ c) (hx : 128 ≤ x.toNat)
    (h : KeepsAscii r cs) : KeepsAscii (a :: b :: c :: r) (x :: cs) :=
  .other [b, c] (UInt8.not_lt.mp ha) (by simp [hb, hc]) hx h

theorem other4 (ha : ¬ a < 0x80) (hb : 0x80 ≤ b) (hc : 0x80 ≤ c) (hd : 0x80 ≤ d)
    (hx : 128 ≤ x.toNat) (h : KeepsAscii r cs) : KeepsAscii (a :: b :: c :: d :: r) (x :: cs) :=
  .other [b, c, d] (UInt8.not_lt.mp ha) (by simp [hb, hc, hd]) hx h

end KeepsAscii

/-- **Lossy decoding keeps ASCII.** -/
theorem keepsAscii_decodeLossy (bytes : Bytes) : KeepsAscii bytes (decodeLossy bytes) := by
  -- one case per way in which a character, or the start of one, takes bytes
  fun_induction decodeLossy bytes with
  | case1 => exact .nil
  | case2 a r ha ih => exact .ascii ha ih
  | case3 a ha h2 b r hb ih => exact .other2 ha (le_of_isSecond hb) (le_join2 h2) ih
  | case4 a ha h2 b r hb ih => exact .other1 ha le_replacement ih
  | case5 a ha h2 => exact .other1 ha le_replacement .nil
  | case6 a ha h2 h3 b c r hb hc ih =>
    exact .other3 ha (le_of_isSecond hb) (le_of_isTail hc) (le_join3 h3 hb) ih
  | case7 a ha h2 h3 b c r hb hc ih => exact .other2 ha (le_of_isSecond hb) le_replacement ih
  | case8 a ha h2 h3 b c r hb ih => exact .other1 ha le_replacement ih
  | case9 a ha h2 h3 b hb => exact .other2 ha (le_of_isSecond hb) le_replacement .nil
  | case10 a ha h2 h3 b hb ih => exact .other1 ha le_replacement ih
  | case11 a ha h2 h3 => exact .other1 ha le_replacement .nil
  | case12 a ha h2 h3 h4 b c d r hb hc hd ih =>
    exact .other4 ha (le_of_isSecond hb) (le_of_isTail hc) (le_of_isTail hd) (le_join4 h4 hb) ih
  | case13 a ha h2 h3 h4 b c d r hb hc hd ih =>
    exact .other3 ha (le_of_isSecond hb) (le_of_isTail hc) le_replacement ih
  | case14 a ha h2 h3 h4 b c d r hb hc ih =>
    exact .other2 ha (le_of_isSecond hb) le_replacement ih
  | case15 a ha h2 h3 h4 b c d r hb ih => exact .other1 ha le_replacement ih
  | case16 a ha h2 h3 h4 b c hb hc =>
    exact .other3 ha (le_of_isSecond hb) (le_of_isTail hc) le_replacement .nil
  | case17 a ha h2 h3 h4 b c hb hc ih => exact .other2 ha (le_of_isSecond hb) le_replacement ih
  | case18 a ha h2 h3 h4 b c hb ih => exact .other1 ha le_replacement ih
  | case19 a ha h2 h3 h4 b hb => exact .other2 ha (le_of_isSecond hb) le_replacement .nil
  | case20 a ha h2 h3 h4 b hb ih => exact .other1 ha le_replacement ih
  | case21 a ha h2 h3 h4 => exact .other1 ha le_replacement .nil
  | case22 a r ha h2 h3 h4 ih => exact .other1 ha le_replacement ih

theorem count_decodeLossy (bytes : Bytes) {c : Char} (hc : c.toNat < 128) :
    (decodeLossy bytes).count c = bytes.count (UInt8.ofNat c.toNat) :=
  (keepsAscii_decodeLossy bytes).count hc

/-! ## Encoding -/

theorem encodeChar_ascii {c : Char} (h : c.toNat < 128) :
    String.utf8EncodeChar c = [UInt8.ofNat c.toNat] := by
  have hc : c.val.toNat ≤ 0x7f := Nat.le_of_lt_succ h
  simp only [String.utf8EncodeChar, if_pos hc]
  rfl

theorem le_ofNat {n : Nat} (h : 128 ≤ n % 256) : 0x80 ≤ UInt8.ofNat n := by
  rw [UInt8.le_iff_toNat_le, UInt8.toNat_ofNat']
  exact h

/-- A character that is not ASCII is encoded by bytes that are not. -/
theorem encodeChar_other {c : Char} (h : 128 ≤ c.toNat) :
    ∃ a taken, String.utf8EncodeChar c = a :: taken ∧ 0x80 ≤ a ∧ ∀ b ∈ taken, 0x80 ≤ b := by
  have hc : ¬ c.val.toNat ≤ 0x7f := Nat.not_le.mpr h
  simp only [String.utf8EncodeChar, if_neg hc]
  split_ifs
  all_goals
    refine ⟨_, _, rfl, le_ofNat (by omega), ?_⟩
    simp only [List.mem_cons, List.not_mem_nil, or_false]
  · rintro b rfl
    exact le_ofNat (by omega)
  · rintro b (rfl | rfl) <;> exact le_ofNat (by omega)
  · rintro b (rfl | rfl | rfl) <;> exact le_ofNat (by omega)

theorem encode_ascii {cs : List Char} (h : IsAscii cs) :
    encode cs = cs.map fun c => UInt8.ofNat c.toNat := by
  induction cs with
  | nil => rfl
  | cons c cs ih =>
    rw [encode, List.flatMap_cons, encodeChar_ascii (h c List.mem_cons_self), List.map_cons,
      ← ih fun d hd => h d (.tail _ hd)]
    rfl

/-- **Encoding keeps ASCII.** -/
theorem keepsAscii_encode (cs : List Char) : KeepsAscii (encode cs) cs := by
  induction cs with
  | nil => exact .nil
  | cons c cs ih =>
    rw [encode, List.flatMap_cons]
    by_cases hc : c.toNat < 128
    · rw [encodeChar_ascii hc]
      have h := KeepsAscii.ascii (byte_lt hc) ih
      rwa [ofNat_byte hc] at h
    · obtain ⟨a, taken, hcode, ha, htaken⟩ := encodeChar_other (Nat.not_lt.mp hc)
      rw [hcode]
      exact .other taken ha htaken (Nat.not_lt.mp hc) ih

/-- **A text of ASCII comes from its own bytes alone.** -/
theorem decodeLossy_eq_iff {bytes : Bytes} {cs : List Char} (h : IsAscii cs) :
    decodeLossy bytes = cs ↔ bytes = encode cs := by
  rw [encode_ascii h]
  constructor
  · rintro rfl
    exact (keepsAscii_decodeLossy bytes).bytes_eq h
  · rintro rfl
    have hbytes : ∀ b ∈ cs.map (fun c => UInt8.ofNat c.toNat), b < 0x80 := by
      intro b hb
      obtain ⟨c, hc, rfl⟩ := List.mem_map.mp hb
      exact byte_lt (h c hc)
    rw [(keepsAscii_decodeLossy _).text_eq hbytes, List.map_map]
    conv_rhs => rw [← List.map_id cs]
    exact List.map_congr_left fun c hc => ofNat_byte (h c hc)

end Utf8

/-! ## Strings -/

/-- A character of ASCII is in a text as often as in its bytes. -/
theorem count_toBytes (s : String) {c : Char} (hc : c.toNat < 128) :
    (toBytes s).count (UInt8.ofNat c.toNat) = s.toList.count c :=
  ((Utf8.keepsAscii_encode s.toList).count hc).symm

theorem count_ofBytes (bytes : Bytes) {c : Char} (hc : c.toNat < 128) :
    (ofBytes bytes).toList.count c = bytes.count (UInt8.ofNat c.toNat) := by
  rw [ofBytes, String.toList_ofList, Utf8.count_decodeLossy bytes hc]

/-- **A string of ASCII is the text of its own bytes alone.** -/
theorem ofBytes_eq_iff {bytes : Bytes} {s : String} (h : Utf8.IsAscii s.toList) :
    ofBytes bytes = s ↔ bytes = toBytes s := by
  rw [toBytes, ← Utf8.decodeLossy_eq_iff h, ofBytes, ← String.toList_inj, String.toList_ofList]

/-- **The text of a path shows whether the path is absolute.** -/
theorem head?_ofBytes (path : Bytes) :
    (ofBytes path).toList.head? = some '/' ↔ Path.isAbsolute path := by
  rw [ofBytes, String.toList_ofList,
    (Utf8.keepsAscii_decodeLossy path).head? (c := '/') (by decide), Path.isAbsolute,
    decide_eq_true_iff]
  rfl

end Tracepoint.Text
