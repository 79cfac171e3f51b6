import Mathlib
import Tracepoint.Proofs.Artifact.Emission
import Tracepoint.Proofs.Artifact.WellScoped

/-!
# Scoping of decoder sources

The decoder that a format is compiled to, as it is read off the source, is well scoped.  Two kinds
of formats are the exception: that of a `close` without a field `fd`, and one with a buffer that is
named like a descriptor.

* `ScopingContract` — when the decoder of a compiled syscall is well scoped;
* `scoping_contract` — it holds of all considered syscalls and formats;
* `scoping_fails` — one format of each kind.
-/

set_option autoImplicit false

namespace Tracepoint

open Artifact

/-! ## Compiled formats -/

/-- What can be told of the decoder of a compiled syscall from what is read off its lines. -/
structure ScopingContract (c : Compiled) (text : DecoderText) : Prop where
  /-- The lines are part of the source, whatever the syscall is compiled along with. -/
  emitted : ∀ cs : List Compiled, c ∈ cs → (∀ other ∈ cs, other.Aligned) →
    StandIn (treeOf c).lines (decoderSource (Schemas.ofCompiled cs))
  functions : text.functions.map FunctionText.name? =
    ["decode", "render", "arg", "args", "metric"].map fun name => some (.word name)
  fieldsDeclared : text.FieldsDeclared ↔
    (c.decoder.name = "close" → ∃ p ∈ c.decoder.params, p.name = "fd")
  argumentsBound : text.ArgumentsBound ↔
    (c.decoder.name = "close" → ∃ p ∈ c.decoder.params, p.needsPath = true)
  castsIntegers : text.CastsIntegers ↔
    ∀ p ∈ c.decoder.params, p.needsPath = true → p.ty.isBuffer = false
  templateFits : text.TemplateFits ↔
    ∀ p ∈ c.decoder.params, p.needsPath = true → p.ty.isBuffer = false
  /-- A decoder is well scoped but for a close without the descriptor it is to forget, and for a
  descriptor that is a buffer. -/
  wellScoped : text.WellScoped ↔
    (c.decoder.name = "close" → ∃ p ∈ c.decoder.params, p.name = "fd") ∧
      ∀ p ∈ c.decoder.params, p.needsPath = true → p.ty.isBuffer = false

namespace Compiled

variable {name format : String} {c : Compiled}

/-- The parameters of a compiled format are regular. -/
theorem regular (h : ofFormat name format = .ok c) :
    RegularSyscall c.decoder c.wire.typeName := by
  obtain ⟨fields, hfields, rfl⟩ := ofFormat_eq_ok.mp h
  have hevent : ∀ argument ∈ argumentNames, ¬ "Event".toList <:+ argument.toList := by decide
  have hnames (start : String) (hword : IsWord (start ++ "Event")) :
      IsName (start ++ "Event") ∧ start ++ "Event" ∉ argumentNames := by
    refine ⟨⟨hword, fun heq => absurd (String.append_eq_empty_iff.mp heq).2 (by decide)⟩, ?_⟩
    intro hmem
    refine hevent _ hmem ?_
    rw [String.toList_append]
    exact List.suffix_append _ _
  refine ⟨?_, hnames _ (isWord_event name), hnames _ (isWord_protobuf name)⟩
  intro p hp
  obtain ⟨field, hfield, i, rfl⟩ := mem_params hp
  exact ⟨Field.forall_ofLines (fun _ _ => Field.ofLine_isName) hfields field hfield,
    Field.label_param .., Field.needsPath_param ..⟩

theorem wellSpelled (hname : name ∈ consideredSyscalls) (h : ofFormat name format = .ok c) :
    (treeOf c).WellSpelled :=
  wellSpelled_treeOf (List.forall_mem_singleton.mpr (wellNamed_of_ofFormat hname h)) _
    (List.mem_singleton_self _)

end Compiled

/-- **What is used is declared**: the decoder of a considered syscall, compiled from any format that
is accepted, is well scoped but for two kinds of formats. -/
theorem scoping_contract {name format : String} {c : Compiled} (hname : name ∈ consideredSyscalls)
    (h : Compiled.ofFormat name format = .ok c) :
    ∃ text, DecoderText.ofLines? (treeOf c).lines = some text ∧ ScopingContract c text := by
  have hregular := Compiled.regular h
  have hspelled := Compiled.wellSpelled hname h
  have hforgets : DecoderTree.forgetsDescriptor c.decoder = true ↔ c.decoder.name = "close" :=
    decide_eq_true_iff
  have hresolves : DecoderTree.resolvesPaths c.decoder = true ↔
      ∃ p ∈ c.decoder.params, p.needsPath = true := List.any_eq_true
  have hfields := fieldsDeclared_iff (r := c.record) hregular
  have harguments := argumentsBound_iff (r := c.record) hregular
  have hcasts := castsIntegers_iff (r := c.record) hregular
  have htemplate := templateFits_iff (r := c.record) hregular
  rw [hforgets] at hfields harguments
  rw [hresolves] at harguments
  refine ⟨_, DecoderTree.ofLines?_lines hspelled, ?_, ?_, hfields, harguments, hcasts, htemplate,
    ?_⟩
  · exact fun cs hc haligned => (Compiled.emitted hc haligned).decoder
  · rw [DecoderTree.functions_text]
    rfl
  · constructor
    · exact fun hscoped => ⟨hfields.mp hscoped.fields, hcasts.mp hscoped.casts⟩
    · rintro ⟨hfd, hintegers⟩
      have hdescriptor (hclose : c.decoder.name = "close") :
          ∃ p ∈ c.decoder.params, p.needsPath = true := by
        obtain ⟨p, hp, heq⟩ := hfd hclose
        refine ⟨p, hp, ?_⟩
        rw [(hregular.params p hp).needsPath, heq]
        decide
      exact ⟨hfields.mpr hfd, harguments.mpr hdescriptor, hcasts.mpr hintegers,
        htemplate.mpr hintegers⟩

/-- A close with its descriptor. -/
def closeDescriptor : Compiled :=
  Compiled.ofFields "close" [⟨"fd", "unsigned int", .u64, .u64, .uint64⟩]

/-- The decoder of a close drops the descriptor that it reads. -/
theorem scoping_closeDescriptor :
    "close" ∈ consideredSyscalls ∧
      Compiled.ofFormat "close" "\n\tfield:unsigned int fd;\n" = .ok closeDescriptor ∧
      ∃ text, DecoderText.ofLines? (treeOf closeDescriptor).lines = some text ∧
        ScopingContract closeDescriptor text := by
  have hname : "close" ∈ consideredSyscalls := by decide
  have hformat : Compiled.ofFormat "close" "\n\tfield:unsigned int fd;\n" =
      .ok closeDescriptor := by
    decide +kernel
  exact ⟨hname, hformat, scoping_contract hname hformat⟩

/-- A close of something else. -/
def closeNumber : Compiled :=
  Compiled.ofFields "close" [⟨"x", "int", .i64, .s64, .int64⟩]

/-- A read that is given the text of a descriptor. -/
def readBuffer : Compiled :=
  Compiled.ofFields "read" [⟨"fd", "char *", .buffer, .char, .bytes⟩]

/-- **Not all decoders are well scoped**: one drops a descriptor that it does not have, for a
header that it has by another name; one turns a buffer into a number, and shows two values where
the template has room for one. -/
theorem scoping_fails :
    (∃ text, Compiled.ofFormat "close" "\n\tfield:int x;\n" = .ok closeNumber ∧
      DecoderText.ofLines? (treeOf closeNumber).lines = some text ∧
      ¬ text.FieldsDeclared ∧ ¬ text.ArgumentsBound) ∧
    ∃ text, Compiled.ofFormat "read" "\n\tfield:char * fd;\n" = .ok readBuffer ∧
      DecoderText.ofLines? (treeOf readBuffer).lines = some text ∧
      ¬ text.CastsIntegers ∧ ¬ text.TemplateFits := by
  have hclose : Compiled.ofFormat "close" "\n\tfield:int x;\n" = .ok closeNumber := by
    decide +kernel
  have hread : Compiled.ofFormat "read" "\n\tfield:char * fd;\n" = .ok readBuffer := by
    decide +kernel
  have hcloseSpelled := Compiled.wellSpelled (by decide) hclose
  have hreadSpelled := Compiled.wellSpelled (by decide) hread
  refine ⟨⟨_, hclose, DecoderTree.ofLines?_lines hcloseSpelled, ?_, ?_⟩,
    _, hread, DecoderTree.ofLines?_lines hreadSpelled, ?_, ?_⟩
  · exact mt (fieldsDeclared_iff (Compiled.regular hclose)).mp (by decide)
  · exact mt (argumentsBound_iff (Compiled.regular hclose)).mp (by decide)
  · exact mt (castsIntegers_iff (Compiled.regular hread)).mp (by decide)
  · exact mt (templateFits_iff (Compiled.regular hread)).mp (by decide)

end Tracepoint
