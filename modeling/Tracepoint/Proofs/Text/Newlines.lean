import Mathlib
import Tracepoint.Proofs.Address.ReadBack
import Tracepoint.Proofs.Text.Digits
import Tracepoint.Proofs.Text.Lossy
import Tracepoint.Text.Quoted

/-!
# Newlines in texts

Numbers, addresses and quoted texts never hold a newline, whatever they are made of.  The text of
bytes has as many as there are newline bytes.
-/

set_option autoImplicit false

namespace Tracepoint

namespace Text

/-- The number of newlines in a text. -/
def newlines (s : String) : Nat :=
  s.toList.count '\n'

/-- The byte of a newline. -/
def newline : UInt8 := 0x0A

theorem newlines_eq_zero {s : String} : newlines s = 0 ↔ '\n' ∉ s.toList :=
  List.count_eq_zero

@[simp] theorem newlines_append (a b : String) : newlines (a ++ b) = newlines a + newlines b := by
  rw [newlines, String.toList_append, List.count_append]
  rfl

@[simp] theorem count_newline_toBytes (s : String) : (toBytes s).count newline = newlines s :=
  count_toBytes s (c := '\n') (by decide)

@[simp] theorem newlines_ofBytes (bytes : Bytes) : newlines (ofBytes bytes) = bytes.count newline :=
  count_ofBytes bytes (c := '\n') (by decide)

/-! ## Numbers -/

theorem newline_not_mem_toDigits {base : Nat} (hbase : 1 < base) (h16 : base ≤ 16) (n : Nat) :
    '\n' ∉ base.toDigits n :=
  Digits.not_mem_toDigits hbase h16 (by decide) n

@[simp] theorem newlines_repr (n : Nat) : newlines n.repr = 0 := by
  rw [newlines_eq_zero, Nat.toList_repr]
  exact newline_not_mem_toDigits (by omega) (by omega) n

@[simp] theorem newlines_intRepr (i : Int) : newlines i.repr = 0 := by
  cases i with
  | ofNat n => exact newlines_repr n
  | negSucc n =>
    show newlines ("-" ++ (n + 1).repr) = 0
    rw [newlines_append, newlines_repr]
    decide

/-! ## Quoted texts -/

namespace Quoted

theorem newline_not_mem_escape (c : Char) : '\n' ∉ escape c := by
  unfold escape
  split
  · decide
  split
  · decide
  split
  · decide
  split
  · decide
  rename_i hnewline
  split
  · decide
  split
  · decide
  split
  · have hdigits : '\n' ∉ Nat.toDigits 16 c.toNat :=
      newline_not_mem_toDigits (by omega) (by omega) _
    simp [codePoint, hdigits]
  · simpa using fun h => hnewline h.symm

end Quoted

/-- **A quoted text is on one line**, whatever is quoted. -/
@[simp] theorem newlines_quote (s : String) : newlines (Quoted.quote s) = 0 := by
  rw [newlines_eq_zero, Quoted.quote, String.toList_ofList]
  have hbody : '\n' ∉ s.toList.flatMap Quoted.escape := by
    intro h
    obtain ⟨c, -, hc⟩ := List.mem_flatMap.mp h
    exact Quoted.newline_not_mem_escape c hc
  simp [hbody]

end Text

/-! ## Addresses -/

open Text

@[simp] theorem Ipv4.newlines_dotted (octets : Bytes) : newlines (dotted octets) = 0 := by
  rw [newlines_eq_zero, toList_dotted]
  intro h
  rcases mem_intercalate h with h | ⟨piece, hpiece, h⟩
  · simp at h
  · obtain ⟨o, -, rfl⟩ := List.mem_map.mp hpiece
    exact newline_not_mem_toDigits (by omega) (by omega) _ h

@[simp] theorem Ipv4.newlines_text (address : Ipv4) : newlines address.text = 0 :=
  newlines_dotted _

namespace Ipv6

@[simp] theorem newlines_joined (groups : List Nat) : newlines (joined groups) = 0 := by
  rw [newlines_eq_zero, toList_joined]
  intro h
  rcases mem_intercalate h with h | ⟨piece, hpiece, h⟩
  · simp at h
  · obtain ⟨g, -, rfl⟩ := List.mem_map.mp hpiece
    exact newline_not_mem_toDigits (by omega) (by omega) _ h

@[simp] theorem newlines_text (address : Ipv6) : newlines address.text = 0 := by
  have hmapped : newlines "::ffff:" = 0 := by decide
  have hgap : newlines "::" = 0 := by decide
  rw [text, compressed]
  split
  · simp [hmapped]
  · split <;> simp [hgap]

end Ipv6

end Tracepoint
