import Tracepoint.Descriptor.Assoc
import Tracepoint.Descriptor.Path

/-!
# The descriptor table

What every tracked descriptor of every process referred to when it was installed: a path, and the
identity of the file that was there.  The table is kept per process; a process without tracked
descriptors is not kept.
-/

set_option autoImplicit false

namespace Tracepoint

/-- The number of a process. -/
abbrev Pid := UInt32

/-- The number of a descriptor within its process. -/
abbrev Fd := UInt32

/-- What makes a file the same file: its inode, and the device that it is on. -/
structure Identity where
  ino : UInt64
  major : UInt64
  minor : UInt64
  deriving DecidableEq, Repr

/-- What a descriptor referred to when it was installed. -/
structure Entry where
  path : Bytes
  identity : Identity
  deriving DecidableEq, Repr

/-- Whether two entries speak of the same file at the same path; paths are compared by their
components. -/
def Entry.same (a b : Entry) : Bool :=
  Path.same a.path b.path && a.identity = b.identity

/-! ## The table -/

/-- Every process is listed once and with some descriptor, and so is every descriptor within its
process. -/
structure Table.WellFormed (processes : List (Pid × List (Fd × Entry))) : Prop where
  pids_nodup : (Assoc.keys processes).Nodup
  fds_ne_nil : ∀ p ∈ processes, p.2 ≠ []
  fds_nodup : ∀ p ∈ processes, (Assoc.keys p.2).Nodup

/-- The entries of all processes. -/
structure Table where
  processes : List (Pid × List (Fd × Entry))
  wellFormed : Table.WellFormed processes
  deriving DecidableEq, Repr

namespace Table

/-- The table without entries. -/
def empty : Table :=
  ⟨[], .nil, by simp, by simp⟩

/-- The entries of a process. -/
def ofProcess (t : Table) (pid : Pid) : List (Fd × Entry) :=
  (Assoc.find? pid t.processes).getD []

/-- The entry of a descriptor. -/
def get? (t : Table) (pid : Pid) (fd : Fd) : Option Entry :=
  Assoc.find? fd (t.ofProcess pid)

theorem nodup_ofProcess (t : Table) (pid : Pid) : (Assoc.keys (t.ofProcess pid)).Nodup := by
  unfold ofProcess
  cases h : Assoc.find? pid t.processes with
  | none => exact .nil
  | some fds => exact t.wellFormed.fds_nodup _ (Assoc.mem_of_find? h)

/-- Records the entry of a descriptor, in the place of an earlier one. -/
def put (t : Table) (pid : Pid) (fd : Fd) (entry : Entry) : Table where
  processes := Assoc.insert pid (Assoc.insert fd entry (t.ofProcess pid)) t.processes
  wellFormed :=
    { pids_nodup := Assoc.nodup_insert t.wellFormed.pids_nodup
      fds_ne_nil := fun _ hp =>
        match Assoc.mem_insert hp with
        | .inl h => by rw [h]; exact Assoc.insert_ne_nil _ _ _
        | .inr h => t.wellFormed.fds_ne_nil _ h
      fds_nodup := fun _ hp =>
        match Assoc.mem_insert hp with
        | .inl h => h ▸ Assoc.nodup_insert (t.nodup_ofProcess pid)
        | .inr h => t.wellFormed.fds_nodup _ h }

/-- A process without one of its descriptors; nothing of it is kept after the last one. -/
def without (pid : Pid) (fd : Fd) : Pid × List (Fd × Entry) → Option (Pid × List (Fd × Entry))
  | (p, fds) =>
    if p = pid then
      let left := Assoc.erase fd fds
      if left.isEmpty then none else some (p, left)
    else some (p, fds)

theorem without_eq_some {pid : Pid} {fd : Fd} {p q : Pid × List (Fd × Entry)}
    (h : without pid fd p = some q) :
    q.1 = p.1 ∧ (q = p ∨ q.2 = Assoc.erase fd p.2 ∧ q.2 ≠ []) := by
  obtain ⟨p, fds⟩ := p
  simp only [without] at h
  split at h
  · split at h
    · cases h
    · rename_i hleft
      cases h
      exact ⟨rfl, .inr ⟨rfl, fun he => hleft (List.isEmpty_iff.mpr he)⟩⟩
  · cases h
    exact ⟨rfl, .inl rfl⟩

/-- Drops the entry of a descriptor, and its process with the last one. -/
def erase (t : Table) (pid : Pid) (fd : Fd) : Table where
  processes := t.processes.filterMap (without pid fd)
  wellFormed := by
    refine ⟨?_, fun q hq => ?_, fun q hq => ?_⟩
    · exact (Assoc.keys_filterMap_sublist (fun _ _ h => (without_eq_some h).1) _).nodup
        t.wellFormed.pids_nodup
    · obtain ⟨p, hp, h⟩ := List.mem_filterMap.mp hq
      rcases (without_eq_some h).2 with rfl | ⟨-, hne⟩
      · exact t.wellFormed.fds_ne_nil _ hp
      · exact hne
    · obtain ⟨p, hp, h⟩ := List.mem_filterMap.mp hq
      rcases (without_eq_some h).2 with rfl | ⟨he, -⟩
      · exact t.wellFormed.fds_nodup _ hp
      · rw [he]
        exact Assoc.nodup_erase (t.wellFormed.fds_nodup _ hp)

/-- Drops all entries of a process. -/
def eraseProcess (t : Table) (pid : Pid) : Table where
  processes := Assoc.erase pid t.processes
  wellFormed :=
    { pids_nodup := Assoc.nodup_erase t.wellFormed.pids_nodup
      fds_ne_nil := fun _ hp => t.wellFormed.fds_ne_nil _ (List.mem_filter.mp hp |>.1)
      fds_nodup := fun _ hp => t.wellFormed.fds_nodup _ (List.mem_filter.mp hp |>.1) }

/-- The number of entries. -/
def size (t : Table) : Nat :=
  (t.processes.flatMap fun p => p.2).length

/-- Whether there are no entries. -/
def isEmpty (t : Table) : Bool :=
  t.size = 0

/-- The number of entries of a process. -/
def processSize (t : Table) (pid : Pid) : Nat :=
  (t.ofProcess pid).length

/-! ### Looking up what an operation leaves -/

@[simp] theorem get?_empty (pid : Pid) (fd : Fd) : empty.get? pid fd = none := rfl

theorem get?_put (t : Table) (pid : Pid) (fd : Fd) (entry : Entry) (pid' : Pid) (fd' : Fd) :
    (t.put pid fd entry).get? pid' fd' =
      if pid = pid' ∧ fd = fd' then some entry else t.get? pid' fd' := by
  by_cases hp : pid = pid'
  · subst hp
    simp [get?, ofProcess, put, Assoc.find?_insert]
  · simp [get?, ofProcess, put, Assoc.find?_insert, hp]

/-- The processes after a descriptor was dropped: only its own has changed. -/
theorem find?_without (pid pid' : Pid) (fd : Fd) (processes : List (Pid × List (Fd × Entry)))
    (h : (Assoc.keys processes).Nodup) :
    (Assoc.find? pid' (processes.filterMap (without pid fd))).getD [] =
      if pid = pid' then Assoc.erase fd ((Assoc.find? pid' processes).getD [])
      else (Assoc.find? pid' processes).getD [] := by
  induction processes with
  | nil => simp [Assoc.find?, Assoc.erase]
  | cons q processes ih =>
    obtain ⟨p, fds⟩ := q
    simp only [Assoc.keys_cons, List.nodup_cons] at h
    have ih := ih h.2
    by_cases hp : p = pid
    · subst hp
      by_cases hleft : (Assoc.erase fd fds).isEmpty = true
      · rw [List.filterMap_cons_none (by simp [without, hleft]), ih, Assoc.find?]
        split
        · rename_i he
          subst he
          rw [Assoc.find?_eq_none h.1]
          simpa [Assoc.erase] using hleft
        · rfl
      · rw [List.filterMap_cons_some (by simp [without, hleft]; rfl), Assoc.find?, Assoc.find?]
        split
        · rfl
        · rw [ih]
          rename_i he
          rw [if_neg he]
    · rw [List.filterMap_cons_some (by simp [without, hp]; rfl), Assoc.find?, Assoc.find?]
      split
      · rename_i he
        rw [if_neg (fun h => hp (he.trans h.symm))]
      · exact ih

theorem get?_erase (t : Table) (pid : Pid) (fd : Fd) (pid' : Pid) (fd' : Fd) :
    (t.erase pid fd).get? pid' fd' =
      if pid = pid' ∧ fd = fd' then none else t.get? pid' fd' := by
  simp only [get?, ofProcess, erase, find?_without _ _ _ _ t.wellFormed.pids_nodup]
  by_cases hp : pid = pid'
  · simp [hp, Assoc.find?_erase]
  · simp [hp]

theorem get?_eraseProcess (t : Table) (pid pid' : Pid) (fd : Fd) :
    (t.eraseProcess pid).get? pid' fd = if pid = pid' then none else t.get? pid' fd := by
  simp only [get?, ofProcess, eraseProcess, Assoc.find?_erase]
  by_cases hp : pid = pid'
  · simp [hp, Assoc.find?]
  · simp [hp]

end Table

end Tracepoint
