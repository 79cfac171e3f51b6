import Mathlib
import Tracepoint.Proofs.Schema.Alignment

/-!
# One-sided edits of schemas

The check of alignment compares outlines: the names of syscalls, and of each parameter its
position, its name and the shape of its type.  In aligned schemas all outlines are the same, so an
edit that changes the outline of one description is noticed as long as another one stays.

* `Syscall.outline` — what is compared of a syscall;
* `Schemas.Aligned.outline_record`, `Schemas.Aligned.outline_wire` — aligned descriptions have one
  outline;
* `Edit.outline_ne` — every edit changes the outline of what it edits;
* `edits_noticed` — so no edit of a single description passes the check.
-/

set_option autoImplicit false

namespace Tracepoint

/-! ## Outlines -/

/-- The width of a type, whether it has a sign, and whether it is a buffer. -/
def DecoderType.shape (ty : DecoderType) : Nat × Bool × Bool :=
  (ty.size, ty.isSigned, ty.isBuffer)

/-- The width of a type, whether it has a sign, and whether it is a buffer. -/
def RecordType.shape (ty : RecordType) : Nat × Bool × Bool :=
  (ty.size, ty.isSigned, ty.isBuffer)

/-- What is compared of a parameter; `view` tells what is compared of its type. -/
def Param.outline {τ κ : Type} (view : τ → κ) (p : Param τ) : Nat × String × κ :=
  (p.position, p.name, view p.ty)

/-- What is compared of a syscall. -/
def Syscall.outline {τ κ : Type} (view : τ → κ) (s : Syscall τ) :
    String × List (Nat × String × κ) :=
  (s.name, s.params.map (Param.outline view))

/-- The parameters stand where their positions say. -/
def Syscall.Numbered {τ : Type} (s : Syscall τ) : Prop :=
  ∀ (i : Nat) (p : Param τ), s.params[i]? = some p → p.position = i

/-- A record field that its decoder reads has the shape of the decoded type. -/
theorem Schemas.shape_of_recordMatches {d : DecoderType} {r : RecordType}
    (h : recordMatches d r = true) : d.shape = r.shape := by
  cases d <;> cases r <;> first | rfl | cases h

/-- Lists that agree side by side, as far as a third one goes along. -/
theorem map_eq_map_of_getElem? {α β γ δ : Type} {f : α → δ} {g : β → δ} {as : List α} {bs : List β}
    {cs : List γ} (hb : as.length = bs.length) (hc : as.length = cs.length)
    (h : ∀ (i : Nat) (a : α) (b : β) (c : γ),
      as[i]? = some a → bs[i]? = some b → cs[i]? = some c → f a = g b) :
    as.map f = bs.map g := by
  refine List.ext_getElem (by simpa using hb) fun i hi hi' => ?_
  rw [List.length_map] at hi hi'
  rw [List.getElem_map, List.getElem_map]
  exact h i _ _ _ (List.getElem?_eq_getElem hi) (List.getElem?_eq_getElem hi')
    (List.getElem?_eq_getElem (hc ▸ hi))

namespace Syscall.Aligned

variable {d : Syscall DecoderType} {r : Syscall RecordType} {w : Syscall WireType}

theorem outline_record (h : Syscall.Aligned d r w) :
    d.outline DecoderType.shape = r.outline RecordType.shape := by
  refine Prod.ext h.record_name.symm ?_
  refine map_eq_map_of_getElem? h.record_length h.wire_length fun i p q m hp hq hm => ?_
  have haligned := h.params i p q m hp hq hm
  have hposition := haligned.decoder_position.trans haligned.record_position.symm
  have hshape := Schemas.shape_of_recordMatches haligned.record_type
  exact Prod.ext hposition (Prod.ext haligned.record_name hshape)

/-- Nothing of the types is compared with a wire message for being the same. -/
theorem outline_wire (h : Syscall.Aligned d r w) :
    d.outline (fun _ => ()) = w.outline fun _ => () := by
  refine Prod.ext h.wire_name.symm ?_
  refine map_eq_map_of_getElem? h.wire_length h.record_length fun i p m q hp hm hq => ?_
  have haligned := h.params i p q m hp hq hm
  have hposition := haligned.decoder_position.trans haligned.wire_position.symm
  exact Prod.ext hposition (Prod.ext haligned.wire_name rfl)

theorem numbered (h : Syscall.Aligned d r w) : d.Numbered := by
  intro i p hp
  have hi := (List.getElem?_eq_some_iff.mp hp).1
  have hq := List.getElem?_eq_getElem (h.record_length ▸ hi)
  have hm := List.getElem?_eq_getElem (h.wire_length ▸ hi)
  exact (h.params i p _ _ hp hq hm).decoder_position

end Syscall.Aligned

namespace Schemas.Aligned

variable {schemas : Schemas}

/-- **Decoder and record have one outline.** -/
theorem outline_record (h : schemas.Aligned) :
    schemas.decoder.map (Syscall.outline DecoderType.shape) =
      schemas.record.map (Syscall.outline RecordType.shape) :=
  map_eq_map_of_getElem? h.record_length h.wire_length fun i d r w hd hr hw =>
    (h.syscalls i d r w hd hr hw).outline_record

/-- **Decoder and message have one outline**, types aside. -/
theorem outline_wire (h : schemas.Aligned) :
    schemas.decoder.map (Syscall.outline fun _ => ()) =
      schemas.wire.map (Syscall.outline fun _ => ()) :=
  map_eq_map_of_getElem? h.wire_length h.record_length fun i d w r hd hw hr =>
    (h.syscalls i d r w hd hr hw).outline_wire

theorem numbered (h : schemas.Aligned) : ∀ d ∈ schemas.decoder, d.Numbered := by
  intro d hd
  obtain ⟨i, hd⟩ := List.mem_iff_getElem?.mp hd
  have hi := (List.getElem?_eq_some_iff.mp hd).1
  have hr := List.getElem?_eq_getElem (h.record_length ▸ hi)
  have hw := List.getElem?_eq_getElem (h.wire_length ▸ hi)
  exact (h.syscalls i d _ _ hd hr hw).numbered

end Schemas.Aligned

section Numbering

variable {τ υ κ : Type} {view : τ → κ} {view' : υ → κ}

/-- The outline tells whether parameters are numbered. -/
theorem Syscall.numbered_of_outline {s : Syscall τ} {s' : Syscall υ}
    (h : s.outline view = s'.outline view') (hs : s.Numbered) : s'.Numbered := by
  intro i p' hp'
  have hparams := congrArg (fun outline => outline.2[i]?) h
  simp only [Syscall.outline, List.getElem?_map, hp', Option.map_some] at hparams
  obtain ⟨p, hp, houtline⟩ := Option.map_eq_some_iff.mp hparams
  have hposition : p.position = p'.position := congrArg Prod.fst houtline
  rw [← hposition, hs i p hp]

theorem numbered_of_outlines {ds : List (Syscall τ)} {rs : List (Syscall υ)}
    (h : ds.map (Syscall.outline view) = rs.map (Syscall.outline view'))
    (hds : ∀ d ∈ ds, d.Numbered) : ∀ r ∈ rs, r.Numbered := by
  intro r hr
  have hmem : r.outline view' ∈ ds.map (Syscall.outline view) := h ▸ List.mem_map_of_mem hr
  obtain ⟨d, hd, houtline⟩ := List.mem_map.mp hmem
  exact Syscall.numbered_of_outline houtline (hds d hd)

end Numbering

/-! ## Edits -/

/-- An edit of one list of descriptions.  Types are told apart by what `view` says of them. -/
inductive Edit {τ κ : Type} (view : τ → κ) (syscalls : List (Syscall τ)) :
    List (Syscall τ) → Prop
  /-- The parameters of a syscall are put into another order. -/
  | permuted {i : Nat} {s : Syscall τ} (hs : syscalls[i]? = some s)
      (order : Equiv.Perm (Fin s.params.length)) (hne : order ≠ 1) :
      Edit view syscalls
        (syscalls.set i { s with params := List.ofFn fun j => s.params[order j] })
  /-- A syscall is given more or fewer parameters. -/
  | resized {i : Nat} {s : Syscall τ} (hs : syscalls[i]? = some s) (params : List (Param τ))
      (hne : params.length ≠ s.params.length) :
      Edit view syscalls (syscalls.set i { s with params })
  /-- There are more or fewer syscalls. -/
  | recounted (changed : List (Syscall τ)) (hne : changed.length ≠ syscalls.length) :
      Edit view syscalls changed
  /-- The syscalls are put into another order, which their names tell from the one before. -/
  | reordered (changed : List (Syscall τ)) (hperm : changed.Perm syscalls)
      (hne : changed.map Syscall.name ≠ syscalls.map Syscall.name) :
      Edit view syscalls changed
  /-- A syscall is given another name. -/
  | renamed {i : Nat} {s : Syscall τ} (hs : syscalls[i]? = some s) (name : String)
      (hne : name ≠ s.name) :
      Edit view syscalls (syscalls.set i { s with name })
  /-- A parameter is given another name. -/
  | paramRenamed {i j : Nat} {s : Syscall τ} {p : Param τ} (hs : syscalls[i]? = some s)
      (hp : s.params[j]? = some p) (name : String) (hne : name ≠ p.name) :
      Edit view syscalls (syscalls.set i { s with params := s.params.set j { p with name } })
  /-- A parameter is given another type. -/
  | retyped {i j : Nat} {s : Syscall τ} {p : Param τ} (hs : syscalls[i]? = some s)
      (hp : s.params[j]? = some p) (ty : τ) (hne : view ty ≠ view p.ty) :
      Edit view syscalls (syscalls.set i { s with params := s.params.set j { p with ty } })

/-- Replacing an item by one that looks different makes the list look different. -/
theorem map_set_ne {α β : Type} {f : α → β} {l : List α} {i : Nat} {a b : α} (ha : l[i]? = some a)
    (hne : f b ≠ f a) : (l.set i b).map f ≠ l.map f := by
  intro heq
  have hi := (List.getElem?_eq_some_iff.mp ha).1
  have hat := congrArg (fun mapped => mapped[i]?) heq
  simp only [List.getElem?_map, List.getElem?_set_self hi, ha, Option.map_some,
    Option.some.injEq] at hat
  exact hne hat

namespace Syscall

variable {τ κ : Type} {view : τ → κ} {s : Syscall τ}

/-- Only the order that changes nothing keeps the positions. -/
theorem outline_permuted_ne (h : s.Numbered) {order : Equiv.Perm (Fin s.params.length)}
    (hne : order ≠ 1) :
    outline view { s with params := List.ofFn fun j => s.params[order j] } ≠ s.outline view := by
  intro heq
  refine hne (Equiv.ext fun j => Fin.ext ?_)
  have hparams := congrArg (fun outline => outline.2[j.val]?) heq
  have hposition : s.params[order j].position = s.params[j].position := by
    simp only [outline, List.getElem?_map, List.getElem?_ofFn, j.isLt, dite_true,
      Option.map_some, List.getElem?_eq_getElem, Option.some.injEq] at hparams
    exact congrArg Prod.fst hparams
  have hmoved : s.params[order j].position = (order j).val :=
    h _ _ (List.getElem?_eq_getElem (order j).isLt)
  have hstayed : s.params[j].position = j.val := h _ _ (List.getElem?_eq_getElem j.isLt)
  exact hmoved.symm.trans (hposition.trans hstayed)

theorem outline_resized_ne {params : List (Param τ)} (hne : params.length ≠ s.params.length) :
    outline view { s with params } ≠ s.outline view := by
  intro heq
  have hlength := congrArg (fun outline => outline.2.length) heq
  simp only [outline, List.length_map] at hlength
  exact hne hlength

theorem outline_renamed_ne {name : String} (hne : name ≠ s.name) :
    outline view { s with name } ≠ s.outline view :=
  fun heq => hne (congrArg Prod.fst heq)

/-- A parameter that looks different makes its syscall look different. -/
theorem outline_param_ne {j : Nat} {p q : Param τ} (hp : s.params[j]? = some p)
    (hne : q.outline view ≠ p.outline view) :
    outline view { s with params := s.params.set j q } ≠ s.outline view :=
  fun heq => map_set_ne hp hne (congrArg Prod.snd heq)

end Syscall

/-- **Every edit changes the outline** of descriptions with numbered parameters. -/
theorem Edit.outline_ne {τ κ : Type} {view : τ → κ} {syscalls changed : List (Syscall τ)}
    (hnumbered : ∀ s ∈ syscalls, s.Numbered) (h : Edit view syscalls changed) :
    changed.map (Syscall.outline view) ≠ syscalls.map (Syscall.outline view) := by
  cases h with
  | permuted hs order hne =>
    exact map_set_ne hs (Syscall.outline_permuted_ne (hnumbered _ (List.mem_of_getElem? hs)) hne)
  | resized hs params hne => exact map_set_ne hs (Syscall.outline_resized_ne hne)
  | recounted _ hne =>
    intro heq
    have hlength := congrArg List.length heq
    rw [List.length_map, List.length_map] at hlength
    exact hne hlength
  | reordered _ _ hne =>
    intro heq
    have hnames := congrArg (List.map Prod.fst) heq
    rw [List.map_map, List.map_map] at hnames
    exact hne hnames
  | renamed hs name hne => exact map_set_ne hs (Syscall.outline_renamed_ne hne)
  | paramRenamed hs hp name hne =>
    refine map_set_ne hs (Syscall.outline_param_ne hp fun heq => hne ?_)
    exact congrArg (fun outline => outline.2.1) heq
  | retyped hs hp ty hne =>
    refine map_set_ne hs (Syscall.outline_param_ne hp fun heq => hne ?_)
    exact congrArg (fun outline => outline.2.2) heq

/-! ## What is noticed -/

/-- Schemas that the check refuses. -/
def Schemas.Refused (schemas : Schemas) : Prop :=
  ∃ e, schemas.checkAligned = .error e

theorem Schemas.refused_of_not_aligned {schemas : Schemas} (h : ¬ schemas.Aligned) :
    schemas.Refused := by
  cases hcheck : schemas.checkAligned with
  | error e => exact ⟨e, hcheck⟩
  | ok _ => exact absurd (checkAligned_eq_ok.mp hcheck) h

/-- What is refused of edits of one description while the other two stay as they are.  Of a wire
message, a change of a type alone is no such edit. -/
structure Schemas.NoticesEdits (schemas : Schemas) : Prop where
  decoder : ∀ changed, Edit DecoderType.shape schemas.decoder changed →
    Schemas.Refused { schemas with decoder := changed }
  record : ∀ changed, Edit RecordType.shape schemas.record changed →
    Schemas.Refused { schemas with record := changed }
  wire : ∀ changed, Edit (fun _ : WireType => ()) schemas.wire changed →
    Schemas.Refused { schemas with wire := changed }

/-- **One-sided edits are noticed.**  The edited description is compared with one that stayed: both
would have the outline of before. -/
theorem edits_noticed {schemas : Schemas} (h : schemas.checkAligned = .ok ()) :
    schemas.NoticesEdits := by
  have haligned := Schemas.checkAligned_eq_ok.mp h
  have hrecord := haligned.outline_record
  have hwire := haligned.outline_wire
  refine ⟨?_, ?_, ?_⟩
  · intro changed hedit
    refine Schemas.refused_of_not_aligned fun hchanged => ?_
    exact hedit.outline_ne haligned.numbered (hchanged.outline_record.trans hrecord.symm)
  · intro changed hedit
    refine Schemas.refused_of_not_aligned fun hchanged => ?_
    have hnumbered := numbered_of_outlines hrecord haligned.numbered
    exact hedit.outline_ne hnumbered (hchanged.outline_record.symm.trans hrecord)
  · intro changed hedit
    refine Schemas.refused_of_not_aligned fun hchanged => ?_
    have hnumbered := numbered_of_outlines hwire haligned.numbered
    exact hedit.outline_ne hnumbered (hchanged.outline_wire.symm.trans hwire)

/-- A syscall with two parameters of the same type. -/
def ownerCompiled : Compiled :=
  Compiled.ofFields "chown"
    [⟨"filename", "const char *", .buffer, .char, .bytes⟩, ⟨"user", "uid_t", .u32, .u32, .uint32⟩,
      ⟨"group", "gid_t", .u32, .u32, .uint32⟩]

/-- Those two change places. -/
def ownerOrder : Equiv.Perm (Fin ownerCompiled.record.params.length) :=
  Equiv.swap ⟨1, by decide⟩ ⟨2, by decide⟩

/-- The record with these two the other way round is noticed. -/
theorem edits_noticed_owner :
    let schemas := Schemas.ofCompiled [ownerCompiled]
    let params := List.ofFn fun j => ownerCompiled.record.params[ownerOrder j]
    let changed := [{ ownerCompiled.record with params }]
    schemas.checkAligned = .ok () ∧ Edit RecordType.shape schemas.record changed ∧
      schemas.NoticesEdits ∧ Schemas.Refused { schemas with record := changed } := by
  intro schemas params changed
  have hcheck : schemas.checkAligned = .ok () := by decide +kernel
  have hne : ownerOrder ≠ 1 := by decide
  have hedit : Edit RecordType.shape schemas.record changed :=
    Edit.permuted (i := 0) (s := ownerCompiled.record) rfl ownerOrder hne
  have hnotices := edits_noticed hcheck
  exact ⟨hcheck, hedit, hnotices, hnotices.record changed hedit⟩

end Tracepoint
