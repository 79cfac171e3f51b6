import Mathlib
import Tracepoint.Descriptor.Table

/-!
# Tables with the same contents

A table lists its processes in the order in which they came, and so their descriptors.  Nothing
that is asked of a table tells this order: tables that agree on every entry agree on all counts.

* `Assoc.perm_of_find?` — lists that agree on every key are rearrangements of each other;
* `Table.alike_of_get?` — tables that agree on every entry are alike.
-/

set_option autoImplicit false

namespace Tracepoint

/-! ## Association lists -/

namespace Assoc

variable {κ ν : Type} [DecidableEq κ]

theorem find?_of_mem {pairs : List (κ × ν)} (h : (keys pairs).Nodup) {p : κ × ν} (hp : p ∈ pairs) :
    find? p.1 pairs = some p.2 := by
  induction pairs with
  | nil => cases hp
  | cons q pairs ih =>
    rw [keys_cons, List.nodup_cons] at h
    rw [find?]
    rcases List.mem_cons.mp hp with rfl | hp
    · rw [if_pos rfl]
    · have hne : q.1 ≠ p.1 := by
        intro he
        exact h.1 (he ▸ List.mem_map_of_mem hp)
      rw [if_neg hne, ih h.2 hp]

/-- Lists that agree on every key are rearrangements of each other. -/
theorem perm_of_find? {l l' : List (κ × ν)} (h : (keys l).Nodup) (h' : (keys l').Nodup)
    (hfind : ∀ key, find? key l = find? key l') : l.Perm l' := by
  rw [List.perm_ext_iff_of_nodup h.of_map h'.of_map]
  rintro ⟨key, value⟩
  constructor
  · intro hmem
    exact mem_of_find? ((hfind key).symm.trans (find?_of_mem h hmem))
  · intro hmem
    exact mem_of_find? ((hfind key).trans (find?_of_mem h' hmem))

end Assoc

/-! ## Tables -/

namespace Table

/-- Nothing that is asked of two tables tells them apart. -/
structure Alike (t t' : Table) : Prop where
  get?_eq : ∀ pid fd, t.get? pid fd = t'.get? pid fd
  size_eq : t.size = t'.size
  isEmpty_eq : t.isEmpty = t'.isEmpty
  processSize_eq : ∀ pid, t.processSize pid = t'.processSize pid

theorem ofProcess_of_mem (t : Table) {p : Pid × List (Fd × Entry)} (hp : p ∈ t.processes) :
    t.ofProcess p.1 = p.2 := by
  rw [ofProcess, Assoc.find?_of_mem t.wellFormed.pids_nodup hp, Option.getD_some]

/-- The processes that are listed are those with an entry. -/
theorem mem_pids_iff (t : Table) (pid : Pid) :
    pid ∈ Assoc.keys t.processes ↔ ∃ fd entry, t.get? pid fd = some entry := by
  constructor
  · intro hpid
    obtain ⟨p, hp, rfl⟩ := List.mem_map.mp hpid
    obtain ⟨⟨fd, entry⟩, rest, hfds⟩ := List.exists_cons_of_ne_nil (t.wellFormed.fds_ne_nil p hp)
    refine ⟨fd, entry, ?_⟩
    rw [get?, t.ofProcess_of_mem hp, hfds, Assoc.find?, if_pos rfl]
  · rintro ⟨fd, entry, hentry⟩
    by_contra hpid
    rw [get?, ofProcess, Assoc.find?_eq_none hpid] at hentry
    cases hentry

theorem size_eq_sum (t : Table) :
    t.size = ((Assoc.keys t.processes).map t.processSize).sum := by
  have hsizes : t.processes.map (fun p => p.2.length) =
      t.processes.map fun p => t.processSize p.1 :=
    List.map_congr_left fun p hp => by rw [processSize, t.ofProcess_of_mem hp]
  rw [size, List.length_flatMap, hsizes, Assoc.keys, List.map_map]
  rfl

/-- **Tables that agree on every entry are alike.** -/
theorem alike_of_get? {t t' : Table} (h : ∀ pid fd, t.get? pid fd = t'.get? pid fd) :
    Alike t t' := by
  have hprocess : ∀ pid, t.processSize pid = t'.processSize pid := fun pid =>
    (Assoc.perm_of_find? (t.nodup_ofProcess pid) (t'.nodup_ofProcess pid) (h pid)).length_eq
  have hpids : (Assoc.keys t.processes).Perm (Assoc.keys t'.processes) := by
    rw [List.perm_ext_iff_of_nodup t.wellFormed.pids_nodup t'.wellFormed.pids_nodup]
    intro pid
    simp only [mem_pids_iff, h]
  have hsize : t.size = t'.size := by
    rw [size_eq_sum, size_eq_sum, funext hprocess]
    exact (hpids.map t'.processSize).sum_eq
  exact ⟨h, hsize, by rw [isEmpty, isEmpty, hsize], hprocess⟩

end Table

end Tracepoint
