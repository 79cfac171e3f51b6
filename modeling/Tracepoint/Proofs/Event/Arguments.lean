import Mathlib
import Tracepoint.Event.View
import Tracepoint.Proofs.Descriptor.Subject

/-!
# The arguments of a decoded syscall

Decoding a record gives every parameter of its syscall one argument, in order, and an argument has
the shape that its parameter asks for: a buffer, a descriptor with a path, or a plain number.

* `Arg.Shaped` — the three shapes;
* `SyscallEvent.decoded` — the arguments of a decoded syscall are its parameters, in shape;
* `SyscallEvent.Decoded.arg_eq_ok` — asking for an argument by its position finds it there.
-/

set_option autoImplicit false

namespace Tracepoint

/-! ## The traced syscalls -/

namespace Traced

/-- Parameters are numbered in order. -/
theorem positions :
    ∀ call ∈ all, call.params.map Param.position = List.range call.params.length := by
  decide

/-- No buffer is a descriptor. -/
theorem needsPath_eq_false :
    ∀ call ∈ all, ∀ p ∈ call.params, p.ty.isBuffer → p.needsPath = false := by
  decide

/-- Users are shown the names of parameters in camel case. -/
theorem label_eq : ∀ call ∈ all, ∀ p ∈ call.params, p.label = Text.camelCase p.name := by
  decide +kernel

/-- The syscalls that tell how much of their buffers counts are `read` and `write`. -/
theorem policy_eq : ∀ call ∈ all,
    call.policy =
      if call.name = "read" ∨ call.name = "write" then .returnBounded else .nulTerminated := by
  decide

end Traced

/-! ## Shapes -/

/-- An argument that is what its parameter asks for. -/
inductive Arg.Shaped : Arg → Prop
  | buffer {param : Param DecoderType} (content : Bytes) (hty : param.ty.isBuffer = true)
      (hpath : param.needsPath = false) : Shaped ⟨param, .bytes content, none⟩
  | descriptor {param : Param DecoderType} (fd : Int) (path : String)
      (hty : param.ty.isBuffer = false) (hpath : param.needsPath = true) :
      Shaped ⟨param, .int fd, some path⟩
  | number {param : Param DecoderType} (i : Int) (hty : param.ty.isBuffer = false)
      (hpath : param.needsPath = false) : Shaped ⟨param, .int i, none⟩

/-- A value that fits its field is a buffer exactly if the field is one. -/
theorem DecoderType.fits_cases {ty : DecoderType} {v : Value} (h : ty.storage.Fits v) :
    (∃ content, v = .bytes content ∧ ty.isBuffer = true) ∨
      ∃ i, v = .int i ∧ ty.isBuffer = false := by
  cases v with
  | int i =>
    refine .inr ⟨i, rfl, ?_⟩
    cases ty with
    | buffer => exact h.elim
    | i32 | u32 | i64 | u64 => rfl
  | bytes content =>
    refine .inl ⟨content, rfl, ?_⟩
    cases ty with
    | buffer => rfl
    | i32 | u32 | i64 | u64 => exact h.elim

namespace SyscallEvent

/-- Looking paths up gives every argument its shape, whatever the answers are. -/
theorem shaped_resolveArgs (s : Surroundings) (pid : Pid) (t : Table)
    {params : List (Param DecoderType)} {values : List Value}
    (h : List.Forall₂ (fun p v => p.ty.storage.Fits v) params values)
    (hpath : ∀ p ∈ params, p.ty.isBuffer → p.needsPath = false) :
    ∀ arg ∈ (resolveArgs s pid t (params.zip values)).value, arg.Shaped := by
  induction h generalizing t with
  | nil =>
    intro arg harg
    cases harg
  | @cons param value params values hfit _ ih =>
    rw [List.forall_mem_cons] at hpath
    have hrest := fun t => ih t hpath.2
    have hshape := DecoderType.fits_cases hfit
    rw [List.zip_cons_cons, resolveArgs]
    split
    · rename_i hneeds
      refine List.forall_mem_cons.mpr ⟨?_, hrest _⟩
      rcases hshape with ⟨content, rfl, hty⟩ | ⟨fd, rfl, hty⟩
      · rw [hpath.1 hty] at hneeds
        cases hneeds
      · exact .descriptor fd _ hty hneeds
    · rename_i hneeds
      have hneeds : param.needsPath = false := by simpa using hneeds
      refine List.forall_mem_cons.mpr ⟨?_, hrest _⟩
      rcases hshape with ⟨content, rfl, hty⟩ | ⟨i, rfl, hty⟩
      · exact .buffer content hty hneeds
      · exact .number i hty hneeds

/-! ## Decoded syscalls -/

/-- What decoding makes sure of. -/
structure Decoded (e : SyscallEvent) : Prop where
  traced : e.syscall ∈ Traced.all
  /-- Every parameter has its argument. -/
  params : e.args.map Arg.param = e.syscall.params
  shaped : ∀ arg ∈ e.args, arg.Shaped

theorem params_resolveArgs (s : Surroundings) (pid : Pid) (t : Table)
    {params : List (Param DecoderType)} {values : List Value}
    (h : params.length = values.length) :
    (resolveArgs s pid t (params.zip values)).value.map Arg.param = params := by
  calc (resolveArgs s pid t (params.zip values)).value.map Arg.param
      = ((resolveArgs s pid t (params.zip values)).value.map fun arg =>
          (arg.param, arg.value)).map Prod.fst := by
        rw [List.map_map]
        rfl
    _ = params := by rw [args_resolveArgs, List.map_fst_zip h.le]

theorem decoded_decode (s : Surroundings) (t : Table) (pid : Pid) {call : Syscall DecoderType}
    (hcall : call ∈ Traced.all) {payload : Bytes} (hsize : call.layout.size ≤ payload.length) :
    (decode s t pid call payload).1.value.Decoded := by
  have hfits : List.Forall₂ (fun p v => p.ty.storage.Fits v) call.params
      (call.layout.read payload).1 :=
    List.forall₂_map_left_iff.mp (Layout.fits_read hsize)
  rw [value_decode]
  exact ⟨hcall, params_resolveArgs s pid t hfits.length_eq,
    shaped_resolveArgs s pid t hfits (Traced.needsPath_eq_false call hcall)⟩

/-- **A decoded syscall has the arguments that its parameters ask for.** -/
theorem decoded {s : Surroundings} {t : Table} {buffer : Bytes} {header : Header}
    {e : SyscallEvent} (h : (decodeBuffer s t buffer).value = .ok ⟨header, .syscall e⟩) :
    e.Decoded := by
  rw [decodeBuffer_eq] at h
  rcases Framed.value_decode_eq_ok h with ⟨-, hunknown⟩ | ⟨kind, payload, hframed, hkind, hevent⟩
  · cases hunknown
  · obtain rfl : _ = kind := Option.some.inj hkind
    obtain ⟨-, -, -, ⟨hmem, -⟩, hsize⟩ := Framed.ofBuffer_eq_record.mp hframed
    rw [Event.syscall.inj hevent]
    exact decoded_decode s t header.process (Kind.syscall_mem.mp hmem) hsize

end SyscallEvent

/-! ## Arguments by position -/

/-- In a list that is numbered in order, a number finds its place. -/
theorem find?_of_numbered {α : Type} {l : List α} {number : α → Nat}
    (h : l.map number = List.range l.length) (n : Nat) :
    l.find? (fun a => number a = n) = l[n]? := by
  have hnumber : ∀ i (hi : i < l.length), number l[i] = i := by
    intro i hi
    have := congrArg (·[i]?) h
    simpa [hi] using this
  by_cases hn : n < l.length
  · rw [List.getElem?_eq_getElem hn, List.find?_eq_some_iff_getElem]
    refine ⟨by simpa using hnumber n hn, n, hn, rfl, ?_⟩
    intro j hj
    simpa [hnumber j (hj.trans hn)] using hj.ne
  · rw [List.getElem?_eq_none (Nat.not_lt.mp hn), List.find?_eq_none]
    intro a ha
    obtain ⟨i, hi, rfl⟩ := List.getElem_of_mem ha
    have hne : i ≠ n := by omega
    simpa [hnumber i hi] using hne

namespace SyscallEvent.Decoded

variable {e : SyscallEvent}

theorem length_args (h : e.Decoded) : e.args.length = e.syscall.params.length := by
  rw [← h.params, List.length_map]

theorem param_mem (h : e.Decoded) {arg : Arg} (harg : arg ∈ e.args) :
    arg.param ∈ e.syscall.params := by
  rw [← h.params]
  exact List.mem_map_of_mem harg

theorem find?_position (h : e.Decoded) (n : Nat) :
    (e.args.find? fun arg => arg.param.position = n) = e.args[n]? := by
  refine find?_of_numbered ?_ n
  rw [h.length_args, ← Traced.positions e.syscall h.traced, ← h.params, List.map_map]
  rfl

/-- **An argument is found at its position.** -/
theorem arg_eq_ok (h : e.Decoded) {n : Nat} {arg : Arg} (harg : e.args[n]? = some arg)
    (ret : Int64) : e.arg n ret = .ok (arg.text e.syscall.policy ret) := by
  rw [SyscallEvent.arg, h.find?_position, harg]

theorem arg_eq_error (h : e.Decoded) {n : Nat} (hn : e.args.length ≤ n) (ret : Int64) :
    e.arg n ret = .error (.outOfRange e.syscall.name n) := by
  rw [SyscallEvent.arg, h.find?_position, List.getElem?_eq_none hn]

end SyscallEvent.Decoded

end Tracepoint
