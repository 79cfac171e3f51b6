/-!
# Association lists

Pairs of keys and values.  A value that is put under a key takes the place of the one there, so
keys that are apart stay apart.
-/

set_option autoImplicit false

namespace Tracepoint.Assoc

variable {κ ν : Type}

/-- The keys, in order. -/
def keys (pairs : List (κ × ν)) : List κ := pairs.map Prod.fst

@[simp] theorem keys_nil : keys ([] : List (κ × ν)) = [] := rfl

@[simp] theorem keys_cons (p : κ × ν) (pairs : List (κ × ν)) :
    keys (p :: pairs) = p.1 :: keys pairs := rfl

/-- Dropping pairs and changing values keeps the keys apart. -/
theorem keys_filterMap_sublist {f : κ × ν → Option (κ × ν)}
    (hf : ∀ p q, f p = some q → q.1 = p.1) :
    ∀ pairs : List (κ × ν), (keys (pairs.filterMap f)).Sublist (keys pairs)
  | [] => .slnil
  | p :: pairs => by
    cases h : f p with
    | none =>
      rw [List.filterMap_cons_none h]
      exact (keys_filterMap_sublist hf pairs).cons _
    | some q =>
      rw [List.filterMap_cons_some h, keys_cons, keys_cons, hf p q h]
      exact (keys_filterMap_sublist hf pairs).cons_cons _

variable [DecidableEq κ]

/-- Puts a value under a key, in the place of the one there. -/
def insert (key : κ) (value : ν) : List (κ × ν) → List (κ × ν)
  | [] => [(key, value)]
  | (k, v) :: rest => if k = key then (key, value) :: rest else (k, v) :: insert key value rest

/-- The value under a key. -/
def find? (key : κ) : List (κ × ν) → Option ν
  | [] => none
  | (k, v) :: rest => if k = key then some v else find? key rest

/-- Drops a key. -/
def erase (key : κ) (pairs : List (κ × ν)) : List (κ × ν) :=
  pairs.filter fun p => p.1 ≠ key

theorem find?_insert (key key' : κ) (value : ν) (pairs : List (κ × ν)) :
    find? key' (insert key value pairs) =
      if key = key' then some value else find? key' pairs := by
  induction pairs with
  | nil => rfl
  | cons p pairs ih =>
    obtain ⟨k, v⟩ := p
    by_cases hk : k = key
    · subst hk
      by_cases hk' : k = key' <;> simp [insert, find?, hk']
    · by_cases hk' : k = key'
      · subst hk'
        simp [insert, find?, hk, Ne.symm hk]
      · simp [insert, find?, hk, hk', ih]

theorem erase_cons (key k : κ) (v : ν) (pairs : List (κ × ν)) :
    erase key ((k, v) :: pairs) =
      if k = key then erase key pairs else (k, v) :: erase key pairs := by
  by_cases hk : k = key <;> simp [erase, hk]

theorem find?_erase (key key' : κ) (pairs : List (κ × ν)) :
    find? key' (erase key pairs) = if key = key' then none else find? key' pairs := by
  induction pairs with
  | nil => simp [erase, find?]
  | cons p pairs ih =>
    obtain ⟨k, v⟩ := p
    rw [erase_cons]
    by_cases hk : k = key
    · subst hk
      rw [if_pos rfl, ih]
      split
      · rfl
      · rename_i hk'
        rw [find?, if_neg hk']
    · rw [if_neg hk, find?, find?, ih]
      split
      · rename_i hk'
        rw [if_neg fun h => hk (hk'.trans h.symm)]
      · rfl

theorem find?_eq_none {key : κ} {pairs : List (κ × ν)} (h : key ∉ keys pairs) :
    find? key pairs = none := by
  induction pairs with
  | nil => rfl
  | cons p pairs ih =>
    simp only [keys_cons, List.mem_cons, not_or] at h
    rw [find?, if_neg (Ne.symm h.1), ih h.2]

theorem mem_of_find? {key : κ} {value : ν} {pairs : List (κ × ν)}
    (h : find? key pairs = some value) : (key, value) ∈ pairs := by
  induction pairs with
  | nil => cases h
  | cons p pairs ih =>
    unfold find? at h
    split at h
    · rename_i hk
      cases hk; cases h
      exact List.mem_cons_self
    · exact List.mem_cons_of_mem _ (ih h)

theorem mem_insert {key : κ} {value : ν} {pairs : List (κ × ν)} {p : κ × ν}
    (h : p ∈ insert key value pairs) : p = (key, value) ∨ p ∈ pairs := by
  induction pairs with
  | nil => simpa [insert] using h
  | cons q pairs ih =>
    unfold insert at h
    split at h <;> simp only [List.mem_cons] at h ⊢
    · exact h.imp_right Or.inr
    · rcases h with h | h
      · exact .inr (.inl h)
      · exact (ih h).imp_right Or.inr

theorem insert_ne_nil (key : κ) (value : ν) (pairs : List (κ × ν)) :
    insert key value pairs ≠ [] := by
  cases pairs with
  | nil => simp [insert]
  | cons p pairs =>
    unfold insert
    split <;> simp

theorem nodup_insert {key : κ} {value : ν} {pairs : List (κ × ν)} (h : (keys pairs).Nodup) :
    (keys (insert key value pairs)).Nodup := by
  induction pairs with
  | nil => simp [insert, keys]
  | cons p pairs ih =>
    simp only [keys_cons, List.nodup_cons] at h
    unfold insert
    split
    · rename_i hk
      subst hk
      exact List.nodup_cons.mpr h
    · rename_i hk
      refine List.nodup_cons.mpr ⟨fun hmem => ?_, ih h.2⟩
      obtain ⟨q, hq, hqk⟩ := List.mem_map.mp hmem
      rcases mem_insert hq with rfl | hq
      · exact hk hqk.symm
      · exact h.1 (hqk ▸ List.mem_map_of_mem hq)

theorem nodup_erase {key : κ} {pairs : List (κ × ν)} (h : (keys pairs).Nodup) :
    (keys (erase key pairs)).Nodup :=
  (List.filter_sublist.map Prod.fst).nodup h

end Tracepoint.Assoc
