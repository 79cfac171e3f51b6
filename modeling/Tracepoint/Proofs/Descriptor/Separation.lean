import Mathlib
import Tracepoint.Proofs.Descriptor.Contents
import Tracepoint.Proofs.Descriptor.Subject

/-!
# Descriptors do not interfere

Operations about a descriptor go on as if those about all others had never been: leaving them out
changes neither the replies nor the entry.  So operations that share no descriptor can change
places.

* `Operation.transcript_filter`, `Operation.get?_tableAfter_filter` — a run with the operations of
  other descriptors left out;
* `Operation.Apart.commutes` — operations that share no descriptor change places;
* `descriptors_do_not_interfere` — both, with what a decode is about.
-/

set_option autoImplicit false

namespace Tracepoint

namespace Operation

/-! ## What an operation is about -/

/-- The descriptor that an operation is about; the exit of a process is about all of its own. -/
def subject? : Operation → Option (Pid × Fd)
  | .decode buffer => Captured.subject? buffer
  | .install pid fd _ | .resolve pid fd | .forget pid fd => some (pid, fd)
  | .exit _ => none

/-- Whether an operation is about a descriptor. -/
def isAbout (pid : Pid) (fd : Fd) (op : Operation) : Bool :=
  op = .exit pid ∨ op.subject? = some (pid, fd)

/-- The process that an operation is about; that of a decode is the one in the header. -/
def process : Operation → Pid
  | .decode buffer => (Header.front buffer).process
  | .install pid _ _ | .resolve pid _ | .forget pid _ | .exit pid => pid

section About

variable {procfs : Procfs} {pid : Pid} {fd : Fd} {op : Operation}

theorem isAbout_iff : op.isAbout pid fd ↔ op = .exit pid ∨ op.subject? = some (pid, fd) :=
  decide_eq_true_iff

theorem process_of_isAbout (h : op.isAbout pid fd) : op.process = pid := by
  rcases isAbout_iff.mp h with rfl | h
  · rfl
  · cases op with
    | decode buffer =>
      obtain ⟨kind, -, hfd⟩ := Option.bind_eq_some_iff.mp h
      obtain ⟨fd', -, hpair⟩ := Option.map_eq_some_iff.mp hfd
      exact congrArg Prod.fst hpair
    | install p f identity => exact congrArg Prod.fst (Option.some.inj h)
    | resolve p f => exact congrArg Prod.fst (Option.some.inj h)
    | forget p f => exact congrArg Prod.fst (Option.some.inj h)
    | exit p => cases h

/-- An operation touches no descriptor but those it is about. -/
theorem touch?_eq_none (h : ¬ op.isAbout pid fd) : op.touch? procfs pid fd = none := by
  rw [isAbout_iff, not_or] at h
  cases op with
  | decode buffer => exact touch?_decode_eq_none h.2
  | install p f identity =>
    refine if_neg fun hsame => h.2 ?_
    rw [subject?, hsame.1, hsame.2]
  | resolve p f => rfl
  | forget p f =>
    refine if_neg fun hsame => h.2 ?_
    rw [subject?, hsame.1, hsame.2]
  | exit p =>
    refine if_neg fun hsame => h.1 ?_
    rw [hsame]

theorem get?_apply_of_not_isAbout (t : Table) (h : ¬ op.isAbout pid fd) :
    (op.apply procfs.alone t).table.get? pid fd = t.get? pid fd := by
  rw [get?_apply, touch?_eq_none h]
  rfl

theorem get?_apply_congr {t t' : Table} (op : Operation) (h : t.get? pid fd = t'.get? pid fd) :
    (op.apply procfs.alone t).table.get? pid fd = (op.apply procfs.alone t').table.get? pid fd := by
  rw [get?_apply, get?_apply, h]

/-- **A reply depends on the table through one entry only**: that of what the operation is about. -/
theorem value_apply_congr {t t' : Table}
    (h : ∀ pid fd, op.subject? = some (pid, fd) → t.get? pid fd = t'.get? pid fd) :
    (op.apply procfs.alone t).value = (op.apply procfs.alone t').value := by
  cases op with
  | decode buffer => exact congrArg Reply.decoded (decodeBuffer_congr h)
  | install p f identity => rfl
  | resolve p f => exact congrArg Reply.resolved (Tracker.value_resolve_congr (h p f rfl))
  | forget p f => rfl
  | exit p => rfl

end About

/-! ## Runs -/

/-- The operations of a run with their replies; all are given the same answers. -/
def transcript (procfs : Procfs) (t : Table) (ops : List Operation) : List (Operation × Reply) :=
  ops.zip (Step.replies t (ops.map fun op => ⟨procfs.alone, op⟩))

/-- The table after a run. -/
def tableAfter (procfs : Procfs) (t : Table) (ops : List Operation) : Table :=
  Step.runTable t (ops.map fun op => ⟨procfs.alone, op⟩)

section Runs

variable {procfs : Procfs} {t t' : Table}

theorem transcript_cons (op : Operation) (ops : List Operation) :
    transcript procfs t (op :: ops) =
      (op, (op.apply procfs.alone t).value) ::
        transcript procfs (op.apply procfs.alone t).table ops :=
  rfl

theorem tableAfter_cons (op : Operation) (ops : List Operation) :
    tableAfter procfs t (op :: ops) = tableAfter procfs (op.apply procfs.alone t).table ops :=
  rfl

theorem transcript_append (ops rest : List Operation) :
    transcript procfs t (ops ++ rest) =
      transcript procfs t ops ++ transcript procfs (tableAfter procfs t ops) rest := by
  induction ops generalizing t with
  | nil => rfl
  | cons op ops ih =>
    rw [List.cons_append, transcript_cons, transcript_cons, tableAfter_cons, ih, List.cons_append]

theorem tableAfter_append (ops rest : List Operation) :
    tableAfter procfs t (ops ++ rest) = tableAfter procfs (tableAfter procfs t ops) rest := by
  simp only [tableAfter, Step.runTable, List.map_append, List.foldl_append]

/-! ### Leaving out other descriptors -/

variable {pid : Pid} {fd : Fd}

/-- The operations about a descriptor get the same replies when all others are left out. -/
theorem transcript_filter (ops : List Operation) (h : t.get? pid fd = t'.get? pid fd) :
    (transcript procfs t ops).filter (fun moment => moment.1.isAbout pid fd) =
      transcript procfs t' (ops.filter (isAbout pid fd)) := by
  induction ops generalizing t t' with
  | nil => rfl
  | cons op ops ih =>
    by_cases habout : op.isAbout pid fd
    · have hreply : (op.apply procfs.alone t).value = (op.apply procfs.alone t').value := by
        refine value_apply_congr fun p f hsubject => ?_
        -- the exit of a process is about the descriptor too, but its reply looks at no entry
        rcases isAbout_iff.mp habout with rfl | habout
        · cases hsubject
        · rw [habout] at hsubject
          cases hsubject
          exact h
      simp only [transcript_cons, List.filter_cons, habout, if_true]
      rw [hreply, ih (get?_apply_congr op h)]
    · simp only [transcript_cons, List.filter_cons, habout, Bool.false_eq_true, if_false]
      exact ih ((get?_apply_of_not_isAbout t habout).trans h)

/-- So is its entry the same in the end. -/
theorem get?_tableAfter_filter (ops : List Operation) (h : t.get? pid fd = t'.get? pid fd) :
    (tableAfter procfs t ops).get? pid fd =
      (tableAfter procfs t' (ops.filter (isAbout pid fd))).get? pid fd := by
  induction ops generalizing t t' with
  | nil => exact h
  | cons op ops ih =>
    rw [tableAfter_cons]
    by_cases habout : op.isAbout pid fd
    · rw [List.filter_cons_of_pos habout, tableAfter_cons]
      exact ih (get?_apply_congr op h)
    · rw [List.filter_cons_of_neg habout]
      exact ih ((get?_apply_of_not_isAbout t habout).trans h)

/-! ### Tables that agree -/

theorem transcript_congr (ops : List Operation) (h : ∀ pid fd, t.get? pid fd = t'.get? pid fd) :
    transcript procfs t ops = transcript procfs t' ops := by
  induction ops generalizing t t' with
  | nil => rfl
  | cons op ops ih =>
    rw [transcript_cons, transcript_cons, value_apply_congr fun pid fd _ => h pid fd,
      ih fun pid fd => get?_apply_congr op (h pid fd)]

theorem get?_tableAfter_congr (ops : List Operation)
    (h : ∀ pid fd, t.get? pid fd = t'.get? pid fd) (pid : Pid) (fd : Fd) :
    (tableAfter procfs t ops).get? pid fd = (tableAfter procfs t' ops).get? pid fd := by
  induction ops generalizing t t' with
  | nil => exact h pid fd
  | cons op ops ih => exact ih fun pid fd => get?_apply_congr op (h pid fd)

end Runs

/-! ## Changing places -/

/-- Two operations share no descriptor. -/
def Apart (a b : Operation) : Prop :=
  ∀ pid fd, a.isAbout pid fd → ¬ b.isAbout pid fd

/-- Two operations in a row can change places, in any run: every operation gets the same reply, and
the tables after the run are alike. -/
def Commutes (procfs : Procfs) (a b : Operation) : Prop :=
  ∀ (t : Table) (before after : List Operation), ∃ x y last,
    transcript procfs t (before ++ a :: b :: after) =
      transcript procfs t before ++ (a, x) :: (b, y) :: last ∧
    transcript procfs t (before ++ b :: a :: after) =
      transcript procfs t before ++ (b, y) :: (a, x) :: last ∧
    Table.Alike (tableAfter procfs t (before ++ a :: b :: after))
      (tableAfter procfs t (before ++ b :: a :: after))

section Places

variable {procfs : Procfs} {a b : Operation}

theorem Apart.symm (h : Apart a b) : Apart b a :=
  fun pid fd hb ha => h pid fd ha hb

theorem apart_of_process_ne (h : a.process ≠ b.process) : Apart a b := by
  intro pid fd ha hb
  exact h ((process_of_isAbout ha).trans (process_of_isAbout hb).symm)

theorem apart_of_subject_ne {p q : Pid × Fd} (ha : a.subject? = some p) (hb : b.subject? = some q)
    (h : p ≠ q) : Apart a b := by
  intro pid fd habout hbbout
  have hpa : p = (pid, fd) := by
    rcases isAbout_iff.mp habout with rfl | habout
    · cases ha
    · exact Option.some.inj (ha.symm.trans habout)
  have hqb : q = (pid, fd) := by
    rcases isAbout_iff.mp hbbout with rfl | hbbout
    · cases hb
    · exact Option.some.inj (hb.symm.trans hbbout)
  exact h (hpa.trans hqb.symm)

/-- An operation gets the same reply after one that it shares no descriptor with. -/
theorem Apart.value_apply (h : Apart a b) (t : Table) :
    (b.apply procfs.alone (a.apply procfs.alone t).table).value =
      (b.apply procfs.alone t).value := by
  refine value_apply_congr fun pid fd hsubject => ?_
  refine get?_apply_of_not_isAbout t fun ha => ?_
  exact h pid fd ha (isAbout_iff.mpr (.inr hsubject))

/-- Both orders leave the same entries. -/
theorem Apart.get?_apply (h : Apart a b) (t : Table) (pid : Pid) (fd : Fd) :
    (b.apply procfs.alone (a.apply procfs.alone t).table).table.get? pid fd =
      (a.apply procfs.alone (b.apply procfs.alone t).table).table.get? pid fd := by
  by_cases ha : a.isAbout pid fd
  · have hb : ¬ b.isAbout pid fd := h pid fd ha
    rw [get?_apply_of_not_isAbout _ hb]
    exact get?_apply_congr a (get?_apply_of_not_isAbout t hb).symm
  · rw [get?_apply_of_not_isAbout _ ha]
    exact get?_apply_congr b (get?_apply_of_not_isAbout t ha)

/-- **Operations that share no descriptor change places.** -/
theorem Apart.commutes (h : Apart a b) : Commutes procfs a b := by
  intro t before after
  let u := tableAfter procfs t before
  let ab := (b.apply procfs.alone (a.apply procfs.alone u).table).table
  let ba := (a.apply procfs.alone (b.apply procfs.alone u).table).table
  have hentries : ∀ pid fd, ab.get? pid fd = ba.get? pid fd := h.get?_apply u
  refine ⟨(a.apply procfs.alone u).value, (b.apply procfs.alone u).value,
    transcript procfs ab after, ?_, ?_, Table.alike_of_get? ?_⟩
  · rw [transcript_append, transcript_cons, transcript_cons, h.value_apply]
  · rw [transcript_append, transcript_cons, transcript_cons, h.symm.value_apply,
      transcript_congr after hentries]
  · intro pid fd
    simp only [tableAfter_append, tableAfter_cons]
    exact get?_tableAfter_congr after hentries pid fd

end Places

end Operation

/-! ## Separation -/

open Operation (transcript tableAfter)

/-- Descriptors are apart from each other, where all operations are given the same answers. -/
structure NonInterference (procfs : Procfs) : Prop where
  /-- A decode is about the process in the header and the `fd` or `dfd` field of the event. -/
  subject : ∀ s t buffer d, (decodeBuffer s t buffer).value = .ok d →
    (Operation.decode buffer).subject? = d.event.descriptor?.map (d.header.process, ·)
  /-- The operations about a descriptor get the same replies when all others are left out. -/
  replies : ∀ t ops pid fd,
    (transcript procfs t ops).filter (fun moment => moment.1.isAbout pid fd) =
      transcript procfs t (ops.filter (Operation.isAbout pid fd))
  /-- Its entry is the same in the end. -/
  entry : ∀ t ops pid fd, (tableAfter procfs t ops).get? pid fd =
    (tableAfter procfs t (ops.filter (Operation.isAbout pid fd))).get? pid fd
  /-- An event without such a field is decoded alike, whatever the table is. -/
  plain : ∀ s t buffer d, (decodeBuffer s t buffer).value = .ok d → d.event.descriptor? = none →
    ∀ s' t', (decodeBuffer s' t' buffer).value = .ok d
  /-- A buffer that is rejected is rejected alike. -/
  rejected : ∀ s t buffer e, (decodeBuffer s t buffer).value = .error e →
    ∀ s' t', (decodeBuffer s' t' buffer).value = .error e
  /-- Operations about different processes change places. -/
  processes : ∀ a b : Operation, a.process ≠ b.process → a.Commutes procfs b
  /-- So do operations about different descriptors of one process. -/
  descriptors : ∀ (a b : Operation) pid f g, a.subject? = some (pid, f) →
    b.subject? = some (pid, g) → f ≠ g → a.Commutes procfs b

/-- **Descriptors do not interfere**, whatever is answered. -/
theorem descriptors_do_not_interfere (procfs : Procfs) : NonInterference procfs where
  subject _ _ _ _ h := Captured.subject?_of_decoded h
  replies _ ops _ _ := Operation.transcript_filter ops rfl
  entry _ ops _ _ := Operation.get?_tableAfter_filter ops rfl
  plain _ _ _ _ h hplain s' t' := decodeBuffer_plain h hplain s' t'
  rejected := by
    intro s t buffer e h s' t'
    rw [decodeBuffer_eq, Framed.value_decode_eq_error] at h ⊢
    exact h
  processes _ _ h := (Operation.apart_of_process_ne h).commutes
  descriptors _ _ _ _ _ ha hb h :=
    (Operation.apart_of_subject_ne ha hb fun he => h (congrArg Prod.snd he)).commutes

end Tracepoint
