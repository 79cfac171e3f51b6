import Mathlib
import Tracepoint.Proofs.Descriptor.Contents
import Tracepoint.Proofs.Descriptor.Interleaving

/-!
# The table as a flat map

The table is kept per process.  Seen from outside it is one map from pairs of a process and a
descriptor: its entries are what was put last, and its counts are counts of such pairs.

* `Table.get?_changed_eq_some` — what changes leave under a pair is the last entry put for it;
* `Table.find?_entries` — the entries, listed under pairs;
* `Assoc.encard_isSome_find?` — so the counts of a table are counts of pairs;
* `Table.flat_map` — all of it, for every list of changes to an empty table.
-/

set_option autoImplicit false

namespace Tracepoint

namespace Assoc

variable {κ ν : Type} [DecidableEq κ] {pairs : List (κ × ν)}

theorem find?_eq_some_iff (h : (keys pairs).Nodup) {key : κ} {value : ν} :
    find? key pairs = some value ↔ (key, value) ∈ pairs :=
  ⟨mem_of_find?, fun hmem => find?_of_mem h hmem⟩

theorem isSome_find?_iff (h : (keys pairs).Nodup) {key : κ} :
    (find? key pairs).isSome ↔ key ∈ keys pairs := by
  simp only [Option.isSome_iff_exists, find?_eq_some_iff h, keys, List.mem_map, Prod.exists,
    exists_and_right, exists_eq_right]

/-- As many keys as there are pairs have a value. -/
theorem encard_isSome_find? (h : (keys pairs).Nodup) :
    {key | (find? key pairs).isSome}.encard = pairs.length := by
  have hkeys : {key | (find? key pairs).isSome} = ((keys pairs).toFinset : Set κ) := by
    ext key
    simp only [Set.mem_ofPred_eq, isSome_find?_iff h, List.coe_toFinset]
  rw [hkeys, Set.encard_coe_eq_coe_finsetCard, List.toFinset_card_of_nodup h, keys,
    List.length_map]

theorem erase_of_notMem {key : κ} (h : key ∉ keys pairs) : erase key pairs = pairs := by
  rw [erase, List.filter_eq_self]
  intro p hp
  have hne : p.1 ≠ key := fun he => h (he ▸ List.mem_map_of_mem hp)
  simpa using hne

end Assoc

namespace Table

/-! ## What was put last -/

/-- Whether a change concerns the entry of a descriptor. -/
def Change.Concerns (pid : Pid) (fd : Fd) : Change → Prop
  | .put p f _ => p = pid ∧ f = fd
  | .erase p f => p = pid ∧ f = fd
  | .eraseProcess p => p = pid
  | .clear => True

/-- An entry is put for a descriptor, and no later change concerns it. -/
def LastPut (pid : Pid) (fd : Fd) (entry : Entry) (changes : List Change) : Prop :=
  ∃ earlier later, changes = earlier ++ .put pid fd entry :: later ∧
    ∀ c ∈ later, ¬ c.Concerns pid fd

section Putting

variable {pid : Pid} {fd : Fd} {entry : Entry} {changes : List Change}

theorem lastPut_cons {c : Change} :
    LastPut pid fd entry (c :: changes) ↔
      LastPut pid fd entry changes ∨
        c = .put pid fd entry ∧ ∀ c ∈ changes, ¬ c.Concerns pid fd := by
  constructor
  · rintro ⟨earlier, later, heq, hlater⟩
    cases earlier with
    | nil =>
      cases heq
      exact .inr ⟨rfl, hlater⟩
    | cons _ earlier =>
      cases heq
      exact .inl ⟨earlier, later, rfl, hlater⟩
  · rintro (⟨earlier, later, rfl, hlater⟩ | ⟨rfl, hlater⟩)
    · exact ⟨c :: earlier, later, rfl, hlater⟩
    · exact ⟨[], changes, rfl, hlater⟩

/-- **What one change leaves of an entry**: what it puts, or what was there unless it concerns
it. -/
theorem get?_change_eq_some (t : Table) (c : Change) :
    (t.change c).get? pid fd = some entry ↔
      c = .put pid fd entry ∨ ¬ c.Concerns pid fd ∧ t.get? pid fd = some entry := by
  cases c with
  | put p f e =>
    simp only [change, get?_put, Change.Concerns, Change.put.injEq]
    split_ifs with hsame
    · simp [hsame]
    · simp only [hsame, not_false_eq_true, true_and, iff_or_self]
      rintro ⟨hp, hf, -⟩
      exact absurd ⟨hp, hf⟩ hsame
  | erase p f =>
    simp only [change, get?_erase, Change.Concerns]
    split_ifs with hsame <;> simp [hsame]
  | eraseProcess p =>
    simp only [change, get?_eraseProcess, Change.Concerns]
    split_ifs with hsame <;> simp [hsame]
  | clear => simp [change, Change.Concerns]

/-- **What changes leave of an entry**: the last one put, or what was there if none of them
concerns it. -/
theorem get?_changed_eq_some (t : Table) (changes : List Change) :
    (t.changed changes).get? pid fd = some entry ↔
      LastPut pid fd entry changes ∨
        (∀ c ∈ changes, ¬ c.Concerns pid fd) ∧ t.get? pid fd = some entry := by
  induction changes generalizing t with
  | nil =>
    have hnone : ¬ LastPut pid fd entry [] := by
      rintro ⟨earlier, later, heq, -⟩
      simp at heq
    simp [changed, hnone]
  | cons c changes ih =>
    rw [changed, List.foldl_cons, ← changed, ih, get?_change_eq_some, lastPut_cons,
      List.forall_mem_cons]
    tauto

theorem get?_changed_empty :
    (empty.changed changes).get? pid fd = some entry ↔ LastPut pid fd entry changes := by
  simp [get?_changed_eq_some]

end Putting

/-! ## Entries under pairs -/

variable (t : Table)

/-- The entries, each under its process and descriptor. -/
def entries : List ((Pid × Fd) × Entry) :=
  t.processes.flatMap fun p => p.2.map fun q => ((p.1, q.1), q.2)

theorem mem_entries {pid : Pid} {fd : Fd} {entry : Entry} :
    ((pid, fd), entry) ∈ t.entries ↔ t.get? pid fd = some entry := by
  simp only [entries, List.mem_flatMap, List.mem_map, Prod.mk.injEq]
  constructor
  · rintro ⟨p, hp, q, hq, ⟨rfl, rfl⟩, rfl⟩
    rw [get?, t.ofProcess_of_mem hp, Assoc.find?_of_mem (t.wellFormed.fds_nodup p hp) hq]
  · intro hentry
    obtain ⟨p, hp, rfl⟩ := List.mem_map.mp ((t.mem_pids_iff pid).mpr ⟨fd, entry, hentry⟩)
    rw [get?, t.ofProcess_of_mem hp] at hentry
    exact ⟨p, hp, _, Assoc.mem_of_find? hentry, ⟨rfl, rfl⟩, rfl⟩

theorem nodup_entries : (Assoc.keys t.entries).Nodup := by
  rw [Assoc.keys, entries, List.map_flatMap, List.nodup_flatMap]
  constructor
  · intro p hp
    have hfds := t.wellFormed.fds_nodup p hp
    rw [List.map_map]
    exact List.Nodup.of_map Prod.snd (by rwa [List.map_map])
  · -- pairs of different processes differ in the process
    refine (List.pairwise_map.mp t.wellFormed.pids_nodup).imp ?_
    intro p q hne key hp hq
    simp only [List.map_map, List.mem_map] at hp hq
    obtain ⟨_, -, rfl⟩ := hp
    obtain ⟨_, -, heq⟩ := hq
    exact hne (congrArg Prod.fst heq).symm

theorem length_entries : t.entries.length = t.size := by
  simp [entries, size, List.length_flatMap]

/-- **Looking a pair up in the flat list** is looking it up in the table. -/
theorem find?_entries (pid : Pid) (fd : Fd) :
    Assoc.find? (pid, fd) t.entries = t.get? pid fd := by
  ext entry
  exact (Assoc.find?_eq_some_iff t.nodup_entries).trans t.mem_entries

/-! ## Nothing to erase -/

variable {t}

theorem fd_notMem {pid : Pid} {fd : Fd} (h : t.get? pid fd = none) {p : Pid × List (Fd × Entry)}
    (hp : p ∈ t.processes) (hpid : p.1 = pid) : fd ∉ Assoc.keys p.2 := by
  rw [← Assoc.isSome_find?_iff (t.wellFormed.fds_nodup p hp), ← t.ofProcess_of_mem hp, hpid,
    ← get?, h]
  exact Bool.false_ne_true

theorem eq_of_processes {t t' : Table} (h : t.processes = t'.processes) : t = t' := by
  cases t
  cases t'
  cases h
  rfl

theorem erase_of_get?_eq_none {pid : Pid} {fd : Fd} (h : t.get? pid fd = none) :
    t.erase pid fd = t := by
  refine eq_of_processes ?_
  show t.processes.filterMap (without pid fd) = t.processes
  rw [List.filterMap_congr (g := some), List.filterMap_some]
  rintro ⟨p, fds⟩ hp
  rw [without]
  split_ifs with hpid
  · have hfds : Assoc.erase fd fds = fds := Assoc.erase_of_notMem (fd_notMem h hp hpid)
    have hne : fds.isEmpty = false := by
      simpa using t.wellFormed.fds_ne_nil _ hp
    simp [hfds, hne]
  · rfl

theorem eraseProcess_of_get?_eq_none {pid : Pid} (h : ∀ fd, t.get? pid fd = none) :
    t.eraseProcess pid = t := by
  refine eq_of_processes (Assoc.erase_of_notMem ?_)
  rw [t.mem_pids_iff]
  rintro ⟨fd, entry, hentry⟩
  rw [h fd] at hentry
  cases hentry

/-! ## The flat map -/

theorem isEmpty_iff : t.isEmpty ↔ ∀ pid fd, t.get? pid fd = none := by
  rw [isEmpty, decide_eq_true_iff, ← length_entries, List.length_eq_zero_iff,
    List.eq_nil_iff_forall_not_mem]
  simp only [Prod.forall, mem_entries, Option.eq_none_iff_forall_not_mem, Option.mem_def]

/-- What changes to an empty table promise about the table that they leave. -/
structure FlatMap (changes : List Change) (t : Table) : Prop where
  /-- The entry of a pair is the last one put for it, if nothing dropped it since. -/
  get?_iff : ∀ pid fd entry, t.get? pid fd = some entry ↔ LastPut pid fd entry changes
  /-- No process is kept without descriptors. -/
  descriptors_ne_nil : ∀ p ∈ t.processes, p.2 ≠ []
  /-- A process is kept as long as one of its pairs has an entry. -/
  kept_iff : ∀ pid, pid ∈ Assoc.keys t.processes ↔ ∃ fd, (t.get? pid fd).isSome
  /-- The counts are those of the pairs with an entry. -/
  size_eq : t.size = {key : Pid × Fd | (t.get? key.1 key.2).isSome}.encard
  processSize_eq : ∀ pid, t.processSize pid = {fd | (t.get? pid fd).isSome}.encard
  size_eq_sum : t.size = ∑ pid ∈ (Assoc.keys t.processes).toFinset, t.processSize pid
  isEmpty_iff : t.isEmpty ↔ ∀ pid fd, t.get? pid fd = none
  /-- To drop what is not there changes nothing. -/
  erase_absent : ∀ pid fd, t.get? pid fd = none → t.erase pid fd = t
  eraseProcess_absent : ∀ pid, (∀ fd, t.get? pid fd = none) → t.eraseProcess pid = t

/-- **The table is a flat map** from pairs of a process and a descriptor, whatever was put and
dropped. -/
theorem flat_map (changes : List Change) : FlatMap changes (empty.changed changes) where
  get?_iff _ _ _ := get?_changed_empty
  descriptors_ne_nil := (empty.changed changes).wellFormed.fds_ne_nil
  kept_iff pid := by
    rw [mem_pids_iff]
    simp only [Option.isSome_iff_exists]
  size_eq := by
    rw [← length_entries, ← Assoc.encard_isSome_find? (nodup_entries _)]
    simp only [← find?_entries]
  processSize_eq pid := (Assoc.encard_isSome_find? (nodup_ofProcess _ pid)).symm
  size_eq_sum := by
    rw [List.sum_toFinset _ (empty.changed changes).wellFormed.pids_nodup, Table.size_eq_sum]
  isEmpty_iff := isEmpty_iff
  erase_absent _ _ := erase_of_get?_eq_none
  eraseProcess_absent _ := eraseProcess_of_get?_eq_none

end Table

end Tracepoint
