import Mathlib
import Tracepoint.Proofs.Event.Arguments
import Tracepoint.Proofs.Event.Faithful
import Tracepoint.Proofs.Event.WrittenHeader
import Tracepoint.Trace.Writer

/-!
# Only what was transferred is shown

A buffer in a record is larger than what the syscall transferred, and what is left in the rest of it
is nobody's business.  Two records that differ in such rests only are decoded, side by side, to
events that nothing shows apart; and of what was transferred, everything is shown.

* `Syscall.validPart` — the bytes of a buffer that count;
* `SyscallEvent.alike_decode` — where these bytes agree, decoding does the same;
* `SyscallEvent.Alike.looksLike` — and what it yields looks the same;
* `valid_parts_contract` — both directions, for every traced syscall and every header.
-/

set_option autoImplicit false

namespace Tracepoint

/-! ## The bytes that count -/

/-- The valid part of a buffer: as many bytes as `read` and `write` returned, and for all others the
bytes up to the first NUL byte with that byte, or all bytes if there is none. -/
def Syscall.validPart (call : Syscall DecoderType) (ret : Int64) (buffer : Bytes) : Bytes :=
  if call.name = "read" ∨ call.name = "write" then buffer.take (min (max ret.toInt 0) 256).toNat
  else buffer.take (buffer.idxOf 0 + 1)

/-- The valid part of a buffer without the NUL byte that ends it.  What `read` and `write` transfer
is not ended by a NUL byte, and can have some in it. -/
def Syscall.HasContent (call : Syscall DecoderType) (ret : Int64) (buffer content : Bytes) : Prop :=
  if call.name = "read" ∨ call.name = "write" then call.validPart ret buffer = content
  else 0 ∉ content ∧
    (call.validPart ret buffer = content ∨ call.validPart ret buffer = content ++ [0])

namespace Bytes

/-- What follows the first NUL byte does not matter for what is before it. -/
theorem untilNul_take_idxOf (buffer : Bytes) :
    untilNul (buffer.take (buffer.idxOf 0 + 1)) = untilNul buffer := by
  induction buffer with
  | nil => rfl
  | cons b buffer ih =>
    by_cases hb : b = 0
    · subst hb
      rfl
    · rw [List.idxOf_cons_ne _ hb, List.take_succ_cons]
      simpa [untilNul, hb] using ih

theorem take_idxOf (buffer : Bytes) :
    buffer.take (buffer.idxOf 0 + 1) = buffer.untilNul ∨
      buffer.take (buffer.idxOf 0 + 1) = buffer.untilNul ++ [0] := by
  induction buffer with
  | nil => exact .inl rfl
  | cons b buffer ih =>
    by_cases hb : b = 0
    · subst hb
      exact .inr rfl
    · rw [List.idxOf_cons_ne _ hb, List.take_succ_cons]
      simpa [untilNul, hb] using ih

/-- A buffer of the capacity has no more bytes than a return value could count. -/
theorem transferred_eq {buffer : Bytes} (h : buffer.length ≤ 256) (ret : Int64) :
    transferred buffer ret = buffer.take (min (max ret.toInt 0) 256).toNat := by
  rw [transferred, List.take_eq_take_iff]
  omega

end Bytes

namespace Syscall

variable {call : Syscall DecoderType}

/-- The bytes that are shown of a buffer are the content of the valid part. -/
theorem hasContent_valid (hcall : call ∈ Traced.all) (ret : Int64) {buffer : Bytes}
    (h : buffer.length ≤ 256) : call.HasContent ret buffer (call.policy.valid ret buffer) := by
  rw [Traced.policy_eq call hcall]
  unfold HasContent validPart
  split_ifs
  · exact (Bytes.transferred_eq h ret).symm
  · exact ⟨Bytes.zero_notMem_untilNul buffer, Bytes.take_idxOf buffer⟩

/-- They depend on the valid part only. -/
theorem valid_congr (hcall : call ∈ Traced.all) {ret : Int64} {b₁ b₂ : Bytes}
    (h₁ : b₁.length ≤ 256) (h₂ : b₂.length ≤ 256)
    (h : call.validPart ret b₁ = call.validPart ret b₂) :
    call.policy.valid ret b₁ = call.policy.valid ret b₂ := by
  rw [Traced.policy_eq call hcall]
  unfold validPart at h
  split_ifs at h ⊢
  · calc b₁.transferred ret
        = b₁.take (min (max ret.toInt 0) 256).toNat := Bytes.transferred_eq h₁ ret
      _ = b₂.take (min (max ret.toInt 0) 256).toNat := h
      _ = b₂.transferred ret := (Bytes.transferred_eq h₂ ret).symm
  · calc b₁.untilNul
        = Bytes.untilNul (b₁.take (b₁.idxOf 0 + 1)) := (Bytes.untilNul_take_idxOf b₁).symm
      _ = Bytes.untilNul (b₂.take (b₂.idxOf 0 + 1)) := by rw [h]
      _ = b₂.untilNul := Bytes.untilNul_take_idxOf b₂

end Syscall

/-! ## Payloads that agree -/

/-- Equal numbers, or buffers with equal parts. -/
inductive Value.Agree (part : Bytes → Bytes) : Value → Value → Prop
  | int (i : Int) : Agree part (.int i) (.int i)
  | bytes {b₁ b₂ : Bytes} (h : part b₁ = part b₂) : Agree part (.bytes b₁) (.bytes b₂)

/-- Payloads with equal numbers and buffers with equal valid parts. -/
def Syscall.Agree (call : Syscall DecoderType) (ret : Int64) (p₁ p₂ : Bytes) : Prop :=
  List.Forall₂ (Value.Agree (call.validPart ret)) (call.layout.read p₁).1 (call.layout.read p₂).1

theorem Value.Agree.descriptor_eq {part : Bytes → Bytes} {v₁ v₂ : Value} (h : Agree part v₁ v₂) :
    v₁.descriptor = v₂.descriptor := by
  cases h <;> rfl

/-- What is read into a buffer is no longer than the capacity. -/
theorem DecoderType.length_le_of_fits {ty : DecoderType} {content : Bytes}
    (h : ty.storage.Fits (.bytes content)) : content.length ≤ 256 := by
  cases ty with
  | buffer => exact Nat.le_of_eq h
  | i32 | u32 | i64 | u64 => exact h.elim

theorem Value.Agree.valid {call : Syscall DecoderType} (hcall : call ∈ Traced.all) {ret : Int64}
    {ty : DecoderType} {v₁ v₂ : Value} (h : Agree (call.validPart ret) v₁ v₂)
    (h₁ : ty.storage.Fits v₁) (h₂ : ty.storage.Fits v₂) :
    Agree (call.policy.valid ret) v₁ v₂ := by
  cases h with
  | int i => exact .int i
  | bytes h =>
    exact .bytes (Syscall.valid_congr hcall (DecoderType.length_le_of_fits h₁)
      (DecoderType.length_le_of_fits h₂) h)

/-! ## Decoding side by side -/

/-- Outcomes with related values that are the same otherwise. -/
structure Outcome.Alike {α β : Type} (R : α → β → Prop) (o₁ : Outcome α) (o₂ : Outcome β) :
    Prop where
  value : R o₁.value o₂.value
  table : o₁.table = o₂.table
  asked : o₁.asked = o₂.asked
  log : o₁.log = o₂.log

namespace Outcome.Alike

variable {α β γ δ : Type} {R : α → β → Prop} {S : γ → δ → Prop} {o₁ : Outcome α} {o₂ : Outcome β}

theorem map (h : Alike R o₁ o₂) {f : α → γ} {g : β → δ} (hvalue : ∀ a b, R a b → S (f a) (g b)) :
    Alike S (o₁.map f) (o₂.map g) :=
  ⟨hvalue _ _ h.value, h.table, h.asked, h.log⟩

theorem andThen (h : Alike R o₁ o₂) {next₁ : α → Table → Outcome γ} {next₂ : β → Table → Outcome δ}
    (hnext : ∀ a b t, R a b → Alike S (next₁ a t) (next₂ b t)) :
    Alike S (o₁.andThen next₁) (o₂.andThen next₂) := by
  have hn := hnext o₁.value o₂.value o₂.table h.value
  unfold Outcome.andThen
  rw [h.table, h.asked, h.log]
  exact ⟨hn.value, hn.table, congrArg (o₂.asked ++ ·) hn.asked, congrArg (o₂.log ++ ·) hn.log⟩

end Outcome.Alike

/-- Arguments that differ in bytes only that are not shown. -/
structure Arg.Alike (policy : BufferPolicy) (ret : Int64) (a₁ a₂ : Arg) : Prop where
  param : a₁.param = a₂.param
  value : Value.Agree (policy.valid ret) a₁.value a₂.value
  path : a₁.path? = a₂.path?

/-- Syscalls that differ in bytes only that are not shown. -/
structure SyscallEvent.Alike (ret : Int64) (e₁ e₂ : SyscallEvent) : Prop where
  syscall : e₁.syscall = e₂.syscall
  args : List.Forall₂ (Arg.Alike e₂.syscall.policy ret) e₁.args e₂.args

/-- Looking arguments up by their parameters finds arguments that are alike. -/
theorem Arg.Alike.map_find? {policy : BufferPolicy} {ret : Int64} {args₁ args₂ : List Arg}
    (h : List.Forall₂ (Alike policy ret) args₁ args₂) (p : Param DecoderType → Bool) {β : Type}
    {f : Arg → β} (hf : ∀ a₁ a₂, Alike policy ret a₁ a₂ → f a₁ = f a₂) :
    (args₁.find? fun arg => p arg.param).map f = (args₂.find? fun arg => p arg.param).map f := by
  induction h with
  | nil => rfl
  | @cons a₁ a₂ args₁ args₂ ha _ ih =>
    rw [List.find?_cons, List.find?_cons, ha.param]
    cases p a₂.param with
    | true => exact congrArg some (hf a₁ a₂ ha)
    | false => exact ih

namespace SyscallEvent

/-- **Paths are looked up alike**: which, depends on numbers only. -/
theorem alike_resolveArgs (s : Surroundings) (pid : Pid) (t : Table) {policy : BufferPolicy}
    {ret : Int64} {pairs₁ pairs₂ : List (Param DecoderType × Value)}
    (h : List.Forall₂ (fun p q => p.1 = q.1 ∧ Value.Agree (policy.valid ret) p.2 q.2)
      pairs₁ pairs₂) :
    Outcome.Alike (List.Forall₂ (Arg.Alike policy ret)) (resolveArgs s pid t pairs₁)
      (resolveArgs s pid t pairs₂) := by
  induction h generalizing t with
  | nil => exact ⟨.nil, rfl, rfl, rfl⟩
  | @cons pair₁ pair₂ pairs₁ pairs₂ hpair _ ih =>
    obtain ⟨param, v₁⟩ := pair₁
    obtain ⟨_, v₂⟩ := pair₂
    obtain ⟨rfl, hvalue⟩ := hpair
    have hcons : ∀ path?, ∀ t, Outcome.Alike (List.Forall₂ (Arg.Alike policy ret))
        ((resolveArgs s pid t pairs₁).map (⟨param, v₁, path?⟩ :: ·))
        ((resolveArgs s pid t pairs₂).map (⟨param, v₂, path?⟩ :: ·)) :=
      fun path? t => (ih t).map fun _ _ hargs => .cons ⟨rfl, hvalue, rfl⟩ hargs
    unfold resolveArgs
    simp only at hvalue ⊢
    rw [hvalue.descriptor_eq]
    split
    · exact Outcome.Alike.andThen (R := Eq) ⟨rfl, rfl, rfl, rfl⟩ fun _ _ t hresolution => by
        rw [hresolution]
        exact hcons _ t
    · exact hcons none t

theorem Alike.closedDescriptor?_eq {ret : Int64} {e₁ e₂ : SyscallEvent} (h : e₁.Alike ret e₂) :
    e₁.closedDescriptor? = e₂.closedDescriptor? := by
  unfold closedDescriptor?
  rw [h.syscall]
  split
  · exact Arg.Alike.map_find? h.args (fun p => p.name = "fd")
      fun a₁ a₂ ha => ha.value.descriptor_eq
  · rfl

/-- What is closed is a number, too. -/
theorem Alike.settle {ret : Int64} {e₁ e₂ : SyscallEvent} (h : e₁.Alike ret e₂) (pid : Pid)
    (t : Table) : Outcome.Alike (Alike ret) (settle pid e₁ t) (settle pid e₂ t) := by
  unfold SyscallEvent.settle
  rw [h.closedDescriptor?_eq]
  split
  · exact ⟨h, rfl, rfl, rfl⟩
  · exact ⟨h, rfl, rfl, rfl⟩

theorem agree_zip {params : List (Param DecoderType)} {call : Syscall DecoderType}
    (hcall : call ∈ Traced.all) {ret : Int64} {values₁ values₂ : List Value}
    (hfits₁ : List.Forall₂ (fun p v => p.ty.storage.Fits v) params values₁)
    (hfits₂ : List.Forall₂ (fun p v => p.ty.storage.Fits v) params values₂)
    (h : List.Forall₂ (Value.Agree (call.validPart ret)) values₁ values₂) :
    List.Forall₂ (fun p q => p.1 = q.1 ∧ Value.Agree (call.policy.valid ret) p.2 q.2)
      (params.zip values₁) (params.zip values₂) := by
  induction hfits₁ generalizing values₂ with
  | nil => exact .nil
  | cons hfit₁ _ ih =>
    cases hfits₂ with
    | cons hfit₂ hfits₂ =>
      cases h with
      | cons hv h => exact .cons ⟨rfl, hv.valid hcall hfit₁ hfit₂⟩ (ih hfits₂ h)

/-- **Where valid parts agree, decoding does the same.** -/
theorem alike_decode (s : Surroundings) (t : Table) (pid : Pid) {call : Syscall DecoderType}
    (hcall : call ∈ Traced.all) {ret : Int64} {p₁ p₂ : Bytes} (h₁ : call.layout.size ≤ p₁.length)
    (h₂ : call.layout.size ≤ p₂.length) (h : call.Agree ret p₁ p₂) :
    Outcome.Alike (Alike ret) (decode s t pid call p₁).1 (decode s t pid call p₂).1 := by
  have hpairs := agree_zip hcall (List.forall₂_map_left_iff.mp (Layout.fits_read h₁))
    (List.forall₂_map_left_iff.mp (Layout.fits_read h₂)) h
  simp only [decode]
  refine (alike_resolveArgs s pid t hpairs).andThen fun args₁ args₂ t hargs => ?_
  have hevents : Alike ret ⟨call, args₁⟩ ⟨call, args₂⟩ := ⟨rfl, hargs⟩
  exact hevents.settle pid t

end SyscallEvent

/-! ## What is shown -/

namespace Arg.Alike

variable {policy : BufferPolicy} {ret : Int64} {a₁ a₂ : Arg}

theorem text_eq (h : Alike policy ret a₁ a₂) : a₁.text policy ret = a₂.text policy ret := by
  obtain ⟨param, v₁, path?⟩ := a₁
  obtain ⟨_, v₂, _⟩ := a₂
  obtain ⟨rfl, hvalue, rfl⟩ := h
  cases hvalue with
  | int i => rfl
  | bytes hparts => exact congrArg Text.ofBytes hparts

theorem displayed_eq (h : Alike policy ret a₁ a₂) :
    a₁.displayed policy ret = a₂.displayed policy ret := by
  have htext := h.text_eq
  obtain ⟨param, v₁, path?⟩ := a₁
  obtain ⟨_, v₂, _⟩ := a₂
  obtain ⟨rfl, hvalue, rfl⟩ := h
  cases hvalue with
  | int i => rfl
  | bytes hparts => exact congrArg Text.Quoted.quote htext

end Arg.Alike

/-- Related elements that are mapped to equal ones make equal lists. -/
theorem map_eq_of_forall₂ {α β γ : Type} {R : α → β → Prop} {f : α → γ} {g : β → γ} {l₁ : List α}
    {l₂ : List β} (h : List.Forall₂ R l₁ l₂) (hfg : ∀ a b, R a b → f a = g b) :
    l₁.map f = l₂.map g := by
  rw [← List.forall₂_eq_eq_eq, List.forall₂_map_left_iff, List.forall₂_map_right_iff]
  exact h.imp hfg

/-- Decoded events that nobody can tell apart who is shown them. -/
structure DecodedEvent.LooksLike (ret : Int64) (d₁ d₂ : DecodedEvent) : Prop where
  header : d₁.header = d₂.header
  render : d₁.event.render ret = d₂.event.render ret
  namedArgs : d₁.event.namedArgs ret = d₂.event.namedArgs ret
  arg (n : Nat) : d₁.event.arg n ret = d₂.event.arg n ret
  /-- Lines are about the return value in the header. -/
  text (h : ret = d₁.header.ret) (style : Trace.Style) :
    (Trace.Line.ofEvent d₁).text style = (Trace.Line.ofEvent d₂).text style
  /-- A writer cannot tell them apart either, however it takes the lines. -/
  written (h : ret = d₁.header.ret) {σ : Type} (w : Trace.Writer σ) (style : Trace.Style)
    (state : σ) : w.writeEvent style state d₁ = w.writeEvent style state d₂

namespace SyscallEvent.Alike

variable {ret : Int64} {e₁ e₂ : SyscallEvent}

theorem render_eq (h : e₁.Alike ret e₂) : e₁.render ret = e₂.render ret := by
  unfold render
  rw [h.syscall]
  refine congrArg String.join (map_eq_of_forall₂ h.args fun a₁ a₂ ha => ?_)
  rw [ha.param, ha.displayed_eq]

theorem namedArgs_eq (h : e₁.Alike ret e₂) : e₁.namedArgs ret = e₂.namedArgs ret := by
  unfold namedArgs
  rw [h.syscall]
  refine map_eq_of_forall₂ h.args fun a₁ a₂ ha => ?_
  rw [ha.param, ha.displayed_eq]

theorem arg_eq (h : e₁.Alike ret e₂) (n : Nat) : e₁.arg n ret = e₂.arg n ret := by
  have hfind := Arg.Alike.map_find? h.args (fun p => p.position = n)
    fun a₁ a₂ ha => ha.text_eq
  unfold arg
  rw [h.syscall]
  cases h₁ : e₁.args.find? fun arg => arg.param.position = n with
  | none =>
    rw [h₁, Option.map_none, eq_comm, Option.map_eq_none_iff] at hfind
    rw [hfind]
  | some a₁ =>
    rw [h₁, Option.map_some, eq_comm, Option.map_eq_some_iff] at hfind
    obtain ⟨a₂, h₂, htext⟩ := hfind
    rw [h₂]
    exact congrArg Except.ok htext.symm

/-- **Syscalls that are alike look alike**, whatever their header is. -/
theorem looksLike (h : e₁.Alike ret e₂) (header : Header) :
    DecodedEvent.LooksLike ret ⟨header, .syscall e₁⟩ ⟨header, .syscall e₂⟩ := by
  have hline : ret = header.ret → Trace.Line.ofEvent ⟨header, .syscall e₁⟩ =
      Trace.Line.ofEvent ⟨header, .syscall e₂⟩ := by
    rintro rfl
    have hargs : DecodedEvent.namedArgs ⟨header, .syscall e₁⟩ =
        DecodedEvent.namedArgs ⟨header, .syscall e₂⟩ := h.namedArgs_eq
    rw [Trace.Line.ofEvent, Trace.Line.ofEvent, hargs]
  refine ⟨rfl, h.render_eq, h.namedArgs_eq, h.arg_eq, fun hret style => ?_,
    fun hret _ w style state => ?_⟩
  · rw [hline hret]
  · rw [Trace.Writer.writeEvent, Trace.Writer.writeEvent, hline hret]

end SyscallEvent.Alike

/-! ## Buffers -/

/-- A header that names a traced syscall, and a payload of its size, are a record of it. -/
theorem decodeBuffer_of_header {call : Syscall DecoderType} (hcall : call ∈ Traced.all)
    {front payload : Bytes} (hlen : front.length = Header.size)
    (hname : (Header.front front).name = call.name) (hsize : call.layout.size ≤ payload.length)
    (s : Surroundings) (t : Table) :
    decodeBuffer s t (front ++ payload) =
      (SyscallEvent.decode s t (Header.front front).process call payload).1.map fun e =>
        .ok ⟨Header.front front, .syscall e⟩ := by
  have hframed : Framed.ofBuffer (front ++ payload) =
      .record (Header.front front) (.syscall call) payload := by
    rw [Framed.ofBuffer_eq_record, Header.front_append hlen.ge, List.drop_left' hlen]
    refine ⟨?_, rfl, rfl, ⟨Kind.syscall_mem.mpr hcall, hname.symm⟩, hsize⟩
    rw [List.length_append, hlen]
    exact Nat.le_add_right _ _
  rw [decodeBuffer_eq, hframed]
  rfl

/-- The field at a position is read after the bytes of those before it. -/
theorem Layout.getElem?_read (layout : Layout) (bytes : Bytes) (n : Nat) :
    (layout.read bytes).1[n]? =
      layout[n]?.map fun s => s.decode ((bytes.drop (size (layout.take n))).take s.size) := by
  induction layout generalizing bytes n with
  | nil => rfl
  | cons s layout ih =>
    cases n with
    | zero => rfl
    | succ n =>
      have htail := ih (bytes.drop s.size) n
      rw [List.drop_drop] at htail
      exact htail

/-- The bytes of a payload that are the buffer at a position. -/
def Syscall.bufferAt (call : Syscall DecoderType) (n : Nat) (payload : Bytes) : Bytes :=
  (payload.drop (Layout.size (call.layout.take n))).take 256

theorem Syscall.length_bufferAt_le (call : Syscall DecoderType) (n : Nat) (payload : Bytes) :
    (call.bufferAt n payload).length ≤ 256 :=
  List.length_take_le _ _

theorem Syscall.getElem?_read {call : Syscall DecoderType} {n : Nat} {p : Param DecoderType}
    (hp : call.params[n]? = some p) (hbuffer : p.ty.isBuffer = true) (payload : Bytes) :
    (call.layout.read payload).1[n]? = some (.bytes (call.bufferAt n payload)) := by
  have hstorage : call.layout[n]? = some (.block 256) := by
    rw [layout, List.getElem?_map, hp]
    cases hty : p.ty with
    | buffer => simp [hty, DecoderType.storage, maxBufferSize]
    | i32 | u32 | i64 | u64 => simp [hty, DecoderType.isBuffer] at hbuffer
  rw [Layout.getElem?_read, hstorage]
  rfl

/-- **Of a buffer, the valid part is given by itself.** -/
theorem SyscallEvent.arg_decode (s : Surroundings) (t : Table) (pid : Pid)
    {call : Syscall DecoderType} (hcall : call ∈ Traced.all) {payload : Bytes}
    (hsize : call.layout.size ≤ payload.length) {n : Nat} {p : Param DecoderType}
    (hp : call.params[n]? = some p) (hbuffer : p.ty.isBuffer = true) (ret : Int64) :
    (decode s t pid call payload).1.value.arg n ret =
      .ok (Text.ofBytes (call.policy.valid ret (call.bufferAt n payload))) := by
  have hdecoded := decoded_decode s t pid hcall hsize
  have hpair : ((decode s t pid call payload).1.value.args.map
      fun arg => (arg.param, arg.value))[n]? = some (p, .bytes (call.bufferAt n payload)) := by
    rw [value_decode, args_resolveArgs, List.getElem?_zip_eq_some]
    exact ⟨hp, Syscall.getElem?_read hp hbuffer payload⟩
  rw [List.getElem?_map, Option.map_eq_some_iff] at hpair
  obtain ⟨⟨_, _, path?⟩, harg, hfields⟩ := hpair
  obtain ⟨rfl, rfl⟩ := Prod.mk.inj hfields
  rw [hdecoded.arg_eq_ok harg, value_decode]
  rfl

/-! ## Both directions -/

/-- What decoding promises about the buffers of the records that a header announces. -/
structure ValidPartsContract (s : Surroundings) (t : Table) (call : Syscall DecoderType)
    (front : Bytes) : Prop where
  /-- Payloads that agree are decoded alike: the events look the same, the table ends up the same,
  and the same was asked and logged. -/
  hidden (ret : Int64) (p₁ p₂ : Bytes) (h₁ : call.layout.size ≤ p₁.length)
    (h₂ : call.layout.size ≤ p₂.length) (h : call.Agree ret p₁ p₂) :
    Outcome.Alike (fun r₁ r₂ => ∃ d₁ d₂, r₁ = .ok d₁ ∧ r₂ = .ok d₂ ∧ d₁.LooksLike ret d₂)
      (decodeBuffer s t (front ++ p₁)) (decodeBuffer s t (front ++ p₂))
  /-- The argument of a buffer is the text of its valid part. -/
  kept (ret : Int64) (payload : Bytes) (h : call.layout.size ≤ payload.length) (n : Nat)
    (p : Param DecoderType) (hp : call.params[n]? = some p) (hbuffer : p.ty.isBuffer = true) :
    ∃ d content, (decodeBuffer s t (front ++ payload)).value = .ok d ∧
      call.HasContent ret (call.bufferAt n payload) content ∧
      d.event.arg n ret = .ok (Text.ofBytes content)

/-- **What was transferred is shown, and nothing else.**  This is so for every traced syscall and
whatever the rest of the header is. -/
theorem valid_parts_contract {call : Syscall DecoderType} (hcall : call ∈ Traced.all)
    {front : Bytes} (hlen : front.length = Header.size)
    (hname : (Header.front front).name = call.name) (s : Surroundings) (t : Table) :
    ValidPartsContract s t call front where
  hidden ret p₁ p₂ h₁ h₂ h := by
    rw [decodeBuffer_of_header hcall hlen hname h₁, decodeBuffer_of_header hcall hlen hname h₂]
    exact (SyscallEvent.alike_decode s t _ hcall h₁ h₂ h).map fun e₁ e₂ he =>
      ⟨_, _, rfl, rfl, he.looksLike (Header.front front)⟩
  kept ret payload h n p hp hbuffer := by
    rw [decodeBuffer_of_header hcall hlen hname h]
    exact ⟨_, _, rfl, Syscall.hasContent_valid hcall ret (call.length_bufferAt_le n payload),
      SyscallEvent.arg_decode s t _ hcall h hp hbuffer ret⟩

/-- Two bytes that were read, one of them NUL, in buffers that were used for different things
before. -/
theorem valid_parts_read :
    let front := Header.encode ⟨7, 1, 2, "read"⟩
    let values (rest : UInt8) : List Value :=
      [.int 3, .bytes (104 :: 0 :: List.replicate 254 rest), .int 2]
    let payload rest := Traced.readCall.layout.encode (values rest)
    payload 0 ≠ payload 7 ∧ ∀ s t, ∃ d₁ d₂,
      (decodeBuffer s t (front ++ payload 0)).value = .ok d₁ ∧
      (decodeBuffer s t (front ++ payload 7)).value = .ok d₂ ∧ d₁.LooksLike 2 d₂ := by
  intro front values payload
  have hlen : front.length = Header.size := by decide +kernel
  have hname : (Header.front front).name = Traced.readCall.name := by decide +kernel
  have hbuffer : ∀ rest : UInt8, List.length (104 :: 0 :: List.replicate 254 rest) = 256 :=
    fun _ => congrArg (· + 2) List.length_replicate
  have hfits : ∀ rest, Traced.readCall.layout.Fits (values rest) := fun rest =>
    .cons (by decide) (.cons (hbuffer rest) (.cons (by decide) .nil))
  have hread : ∀ rest, (Traced.readCall.layout.read (payload rest)).1 = values rest := by
    intro rest
    have h := Layout.read_encode_append (hfits rest) []
    rw [List.append_nil] at h
    exact congrArg Prod.fst h
  have hsize : ∀ rest, Traced.readCall.layout.size ≤ (payload rest).length := fun rest =>
    (Layout.length_encode (hfits rest).length_eq.symm).ge
  have hagree : Traced.readCall.Agree 2 (payload 0) (payload 7) := by
    rw [Syscall.Agree, hread, hread]
    exact .cons (.int 3) (.cons (.bytes (by decide)) (.cons (.int 2) .nil))
  refine ⟨fun h => ?_, fun s t => ?_⟩
  · have hvalues := hread 0
    rw [h, hread] at hvalues
    exact absurd hvalues (by decide)
  · have hcontract := valid_parts_contract (by decide) hlen hname s t
    exact (hcontract.hidden 2 (payload 0) (payload 7) (hsize 0) (hsize 7) hagree).value

end Tracepoint
