import Mathlib

/-!
# Digits

Numbers are printed in base ten and in base sixteen.  Both are read back by one reader, and no
other character comes up among the digits.
-/

set_option autoImplicit false

namespace Tracepoint.Text.Digits

/-- The value of a digit. -/
def value (c : Char) : Nat :=
  (List.range 16).findIdx fun d => d.digitChar = c

/-- The number that digits spell. -/
def read (base : Nat) (digits : List Char) : Nat :=
  digits.foldl (fun n c => base * n + value c) 0

theorem value_digitChar : ∀ d < 16, value d.digitChar = d := by
  decide

variable {base : Nat}

/-- **A number is read back from its digits.** -/
theorem read_toDigits (hbase : 1 < base) (h16 : base ≤ 16) (n : Nat) :
    read base (base.toDigits n) = n := by
  rw [Nat.toDigits_eq_if hbase]
  split
  · rename_i hlt
    simp [read, value_digitChar n (by omega)]
  · have hmod := Nat.mod_lt n (by omega : base > 0)
    have hdiv : n / base < n := Nat.div_lt_self (by omega) hbase
    have ih := read_toDigits hbase h16 (n / base)
    rw [read] at ih
    rw [read, List.foldl_append, ih, List.foldl_cons, List.foldl_nil,
      value_digitChar _ (by omega), Nat.div_add_mod]
termination_by n

theorem mem_toDigits (hbase : 1 < base) {n : Nat} {c : Char} (h : c ∈ base.toDigits n) :
    ∃ d < base, d.digitChar = c := by
  rw [Nat.toDigits_eq_if hbase] at h
  split at h
  · rename_i hlt
    exact ⟨n, hlt, (List.mem_singleton.mp h).symm⟩
  · have hdiv : n / base < n := Nat.div_lt_self (by omega) hbase
    rcases List.mem_append.mp h with h | h
    · exact mem_toDigits hbase h
    · exact ⟨n % base, Nat.mod_lt _ (by omega), (List.mem_singleton.mp h).symm⟩
termination_by n

theorem not_mem_toDigits (hbase : 1 < base) (h16 : base ≤ 16) {c : Char}
    (hc : ∀ d < 16, Nat.digitChar d ≠ c) (n : Nat) : c ∉ base.toDigits n := by
  intro h
  obtain ⟨d, hd, rfl⟩ := mem_toDigits hbase h
  exact hc d (by omega) rfl

theorem toDigits_ne_nil (hbase : 1 < base) (n : Nat) : base.toDigits n ≠ [] := by
  rw [Nat.toDigits_eq_if hbase]
  split <;> simp

end Tracepoint.Text.Digits
