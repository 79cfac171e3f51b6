import Mathlib
import Tracepoint.Proofs.Artifact.Showing
import Tracepoint.Proofs.Event.Faithful

/-!
# The views of an event agree

An event shows itself as one text, as a list of named arguments, and argument by argument.  The
text is spelled by the list, and the list is spelled by the arguments.

* `rendering` — the text that a list of named arguments spells;
* `SyscallViews` — how the list of a syscall is made of its arguments, one by one;
* `views_contract` — the views of every event that is decoded agree.
-/

set_option autoImplicit false

namespace Tracepoint

open Artifact

/-- The text that a list of named arguments spells: each name in camel case, then the value. -/
def rendering (args : List (String × String)) : String :=
  String.join (args.map fun field => Text.camelCase field.1 ++ " " ++ field.2 ++ " ")

/-! ## Syscalls -/

/-- How the views of a syscall fit each other and its description. -/
structure SyscallViews (e : SyscallEvent) (ret : Int64) : Prop where
  traced : e.syscall ∈ Traced.all
  render : e.render ret = rendering (e.namedArgs ret)
  names : (e.namedArgs ret).map Prod.fst = e.syscall.params.map Param.name
  /-- An argument is given exactly at the positions in the list. -/
  arg_iff (n : Nat) : (∃ text, e.arg n ret = .ok text) ↔ n < (e.namedArgs ret).length
  outOfRange (n : Nat) (h : (e.namedArgs ret).length ≤ n) :
    e.arg n ret = .error (.outOfRange e.syscall.name n)
  /-- A buffer is listed in quotes. -/
  buffer (n : Nat) (p : Param DecoderType) (text : String) (hp : e.syscall.params[n]? = some p)
    (harg : e.arg n ret = .ok text) (hbuffer : p.ty.isBuffer = true) :
    (e.namedArgs ret)[n]? = some (p.name, Text.Quoted.quote text)
  /-- A descriptor is listed with the path that it was found to have. -/
  descriptor (n : Nat) (p : Param DecoderType) (text : String)
    (hp : e.syscall.params[n]? = some p) (harg : e.arg n ret = .ok text)
    (hpath : p.needsPath = true) :
    ∃ path, e.struct.path? (pathField p.name) = some path ∧
      (e.namedArgs ret)[n]? = some (p.name, text ++ "<" ++ path ++ ">")
  /-- Anything else is listed as it is. -/
  plain (n : Nat) (p : Param DecoderType) (text : String) (hp : e.syscall.params[n]? = some p)
    (harg : e.arg n ret = .ok text) (hbuffer : p.ty.isBuffer = false)
    (hpath : p.needsPath = false) : (e.namedArgs ret)[n]? = some (p.name, text)
  /-- The three functions of the decoder that is generated for the syscall give these views. -/
  generated (record : Syscall RecordType) (message : String) :
    let tree := DecoderTree.ofSyscall e.syscall record message
    tree.argNames = e.syscall.params.map Param.name ∧ tree.Shows e ret

namespace Arg.Shaped

variable {arg : Arg} {policy : BufferPolicy} {ret : Int64}

theorem displayed_of_buffer (h : arg.Shaped) (hbuffer : arg.param.ty.isBuffer = true) :
    arg.displayed policy ret = Text.Quoted.quote (arg.text policy ret) := by
  cases h with
  | buffer content hty hpath => rfl
  | descriptor fd path hty hpath => cases hbuffer.symm.trans hty
  | number i hty hpath => cases hbuffer.symm.trans hty

theorem displayed_of_descriptor (h : arg.Shaped) (hneeds : arg.param.needsPath = true) :
    ∃ path, arg.path? = some path ∧
      arg.displayed policy ret = arg.text policy ret ++ "<" ++ path ++ ">" := by
  cases h with
  | buffer content hty hpath => cases hneeds.symm.trans hpath
  | descriptor fd path hty hpath => exact ⟨path, rfl, rfl⟩
  | number i hty hpath => cases hneeds.symm.trans hpath

theorem displayed_of_number (h : arg.Shaped) (hbuffer : arg.param.ty.isBuffer = false)
    (hneeds : arg.param.needsPath = false) :
    arg.displayed policy ret = arg.text policy ret := by
  cases h with
  | buffer content hty hpath => cases hbuffer.symm.trans hty
  | descriptor fd path hty hpath => cases hneeds.symm.trans hpath
  | number i hty hpath => rfl

end Arg.Shaped

@[simp] theorem SyscallEvent.length_namedArgs (e : SyscallEvent) (ret : Int64) :
    (e.namedArgs ret).length = e.args.length :=
  List.length_map _

namespace SyscallEvent.Decoded

variable {e : SyscallEvent}

theorem render_eq (h : e.Decoded) (ret : Int64) : e.render ret = rendering (e.namedArgs ret) := by
  rw [render, rendering, namedArgs, List.map_map]
  refine congrArg String.join (List.map_congr_left fun arg harg => ?_)
  rw [Traced.label_eq e.syscall h.traced arg.param (h.param_mem harg)]
  rfl

theorem names_namedArgs (h : e.Decoded) (ret : Int64) :
    (e.namedArgs ret).map Prod.fst = e.syscall.params.map Param.name := by
  rw [namedArgs, List.map_map, ← h.params, List.map_map]
  rfl

theorem arg_iff (h : e.Decoded) (ret : Int64) (n : Nat) :
    (∃ text, e.arg n ret = .ok text) ↔ n < (e.namedArgs ret).length := by
  rw [length_namedArgs]
  constructor
  · rintro ⟨text, htext⟩
    by_contra hn
    rw [h.arg_eq_error (Nat.not_lt.mp hn)] at htext
    cases htext
  · intro hn
    exact ⟨_, h.arg_eq_ok (List.getElem?_eq_getElem hn) ret⟩

/-- What is listed at the position of a parameter, and what is given of it by itself. -/
theorem exists_arg (h : e.Decoded) {n : Nat} {p : Param DecoderType}
    (hp : e.syscall.params[n]? = some p) {ret : Int64} {text : String}
    (harg : e.arg n ret = .ok text) :
    ∃ arg ∈ e.args, arg.param = p ∧ arg.text e.syscall.policy ret = text ∧
      (e.namedArgs ret)[n]? = some (p.name, arg.displayed e.syscall.policy ret) := by
  rw [← h.params, List.getElem?_map, Option.map_eq_some_iff] at hp
  obtain ⟨arg, hn, rfl⟩ := hp
  rw [h.arg_eq_ok hn] at harg
  refine ⟨arg, List.mem_of_getElem? hn, rfl, Except.ok.inj harg, ?_⟩
  rw [namedArgs, List.getElem?_map, hn]
  rfl

theorem syscallViews (h : e.Decoded) (ret : Int64) : SyscallViews e ret where
  traced := h.traced
  render := h.render_eq ret
  names := h.names_namedArgs ret
  arg_iff := h.arg_iff ret
  outOfRange n hn := h.arg_eq_error (length_namedArgs e ret ▸ hn) ret
  buffer := by
    intro n p text hp harg hbuffer
    obtain ⟨arg, hmem, rfl, rfl, hlisted⟩ := h.exists_arg hp harg
    rw [hlisted, (h.shaped arg hmem).displayed_of_buffer hbuffer]
  descriptor := by
    intro n p text hp harg hneeds
    obtain ⟨arg, hmem, rfl, rfl, hlisted⟩ := h.exists_arg hp harg
    obtain ⟨path, hpath, hdisplayed⟩ := (h.shaped arg hmem).displayed_of_descriptor hneeds
    have hstruct : e.struct.path? (pathField arg.param.name) = some path := by
      rw [Struct.path?, h.lookup_path hmem hpath]
    exact ⟨path, hstruct, by rw [hlisted, hdisplayed]⟩
  plain := by
    intro n p text hp harg hbuffer hneeds
    obtain ⟨arg, hmem, rfl, rfl, hlisted⟩ := h.exists_arg hp harg
    rw [hlisted, (h.shaped arg hmem).displayed_of_number hbuffer hneeds]
  generated record message := ⟨rfl, h.shows_ofSyscall record message ret⟩

end SyscallEvent.Decoded

/-! ## Connections -/

/-- How the views of a connection fit each other; `name` is the name of its event. -/
structure ConnectionViews (event : Event) (name : String) (ret : Int64) : Prop where
  names : (event.namedArgs ret).map Prod.fst = ["saddr", "daddr", "sport", "dport", "netns"]
  arg (n : Nat) (field : String × String) (h : (event.namedArgs ret)[n]? = some field) :
    event.arg n ret = .ok field.2
  outOfRange (n : Nat) (h : (event.namedArgs ret).length ≤ n) :
    event.arg n ret = .error (.outOfRange name n)

namespace Connection

variable {α : Type} (address : α → String) (c : Connection α)

theorem render_eq : c.render address = rendering (c.namedArgs address) := by
  have hsource : "Saddr " = Text.camelCase "saddr" ++ " " := by decide
  have hdestination : " Daddr " = " " ++ (Text.camelCase "daddr" ++ " ") := by decide
  have hsourcePort : " Sport " = " " ++ (Text.camelCase "sport" ++ " ") := by decide
  have hdestinationPort : " Dport " = " " ++ (Text.camelCase "dport" ++ " ") := by decide
  have hnetns : " Netns " = " " ++ (Text.camelCase "netns" ++ " ") := by decide
  calc c.render address
      = "Saddr " ++ address c.source ++ " Daddr " ++ address c.destination ++
          " Sport " ++ toString c.sourcePort.toNat ++
          " Dport " ++ toString c.destinationPort.toNat ++
          " Netns " ++ toString c.netns.toNat ++ " " := rfl
    _ = rendering (c.namedArgs address) := by
        rw [hsource, hdestination, hsourcePort, hdestinationPort, hnetns]
        simp only [rendering, namedArgs, List.map_cons, List.map_nil, String.join_cons,
          String.join_nil, String.append_assoc, String.append_empty]

theorem arg_eq_ok (name : String) {n : Nat} {field : String × String}
    (h : (c.namedArgs address)[n]? = some field) : c.arg name address n = .ok field.2 := by
  rw [arg, h]

theorem arg_eq_error (name : String) {n : Nat} (h : (c.namedArgs address).length ≤ n) :
    c.arg name address n = .error (.outOfRange name n) := by
  rw [arg, List.getElem?_eq_none h]

end Connection

/-! ## Any event -/

/-- How the views of an event fit each other. -/
structure ViewsContract (event : Event) (ret : Int64) : Prop where
  /-- The text is spelled by the list.  Installed descriptors alone are listed with more than their
  text says. -/
  rendered (h : ∀ e, event ≠ .install e) : event.render ret = rendering (event.namedArgs ret)
  syscall (e : SyscallEvent) (h : event = .syscall e) : SyscallViews e ret
  connectionV4 (c : Connection Ipv4) (h : event = .connectionV4 c) :
    ConnectionViews event c.stage.nameV4 ret
  connectionV6 (c : Connection Ipv6) (h : event = .connectionV6 c) :
    ConnectionViews event c.stage.nameV6 ret

theorem Event.render_eq {event : Event} (hdecoded : ∀ e, event = .syscall e → e.Decoded)
    (hinstall : ∀ e, event ≠ .install e) (ret : Int64) :
    event.render ret = rendering (event.namedArgs ret) := by
  cases event with
  | syscall e => exact (hdecoded e rfl).render_eq ret
  | install e => exact absurd rfl (hinstall e)
  | connectionV4 c => exact c.render_eq Ipv4.text
  | connectionV6 c => exact c.render_eq Ipv6.text
  | unknown => rfl

/-- **The views of an event agree**, whatever is taken for the return value. -/
theorem views_contract {s : Surroundings} {t : Table} {buffer : Bytes} {d : DecodedEvent}
    (h : (decodeBuffer s t buffer).value = .ok d) (ret : Int64) : ViewsContract d.event ret := by
  obtain ⟨header, event⟩ := d
  have hdecoded : ∀ e, event = .syscall e → e.Decoded := by
    rintro e rfl
    exact SyscallEvent.decoded h
  refine ⟨fun hinstall => Event.render_eq hdecoded hinstall ret, fun e he => ?_, ?_, ?_⟩
  · exact (hdecoded e he).syscallViews ret
  · rintro c rfl
    exact ⟨rfl, fun n field => c.arg_eq_ok Ipv4.text _, fun n => c.arg_eq_error Ipv4.text _⟩
  · rintro c rfl
    exact ⟨rfl, fun n field => c.arg_eq_ok Ipv6.text _, fun n => c.arg_eq_error Ipv6.text _⟩

/-- Two bytes that were read, whatever the descriptor turns out to be. -/
theorem views_read :
    let header : Header := ⟨7, 1, 2, "read"⟩
    let values : List Value := [.int 3, .bytes (List.replicate 256 104), .int 2]
    ∀ s t, ∃ e,
      (decodeBuffer s t (Kind.encode (.syscall Traced.readCall) header values)).value =
        .ok ⟨header, .syscall e⟩ ∧
      ViewsContract (.syscall e) 2 ∧ (e.namedArgs 2).map Prod.fst = ["fd", "buf", "count"] := by
  intro header values s t
  have hkind : .syscall Traced.readCall ∈ Kind.all := by decide
  have hname : (Kind.syscall Traced.readCall).name = header.name := rfl
  have hfits : (Kind.syscall Traced.readCall).layout.Fits values :=
    .cons (by decide) (.cons List.length_replicate (.cons (by decide) .nil))
  obtain ⟨event, h, hk, -⟩ := decodeBuffer_encode hkind hname hfits s t
  obtain ⟨e, rfl, hcall⟩ := Event.kind?_eq_syscall.mp hk
  have hviews := views_contract h 2
  refine ⟨e, h, hviews, ?_⟩
  rw [(hviews.syscall e rfl).names, hcall]
  rfl

end Tracepoint
