import Mathlib
import Tracepoint.Proofs.Artifact.Agreement

/-!
# What sources are put together from

Each of the four sources of compiled syscalls has the lines of one after the other, between some
that are there whatever is compiled.

* `StandIn` — lines that stand in a source as they are;
* `Compiled.emitted` — those of a syscall do, whatever it is compiled along with.
-/

set_option autoImplicit false

namespace Tracepoint

open Artifact

/-- Whether a source is made, and has the given lines somewhere in it. -/
def StandIn (lines : List String) (source : Except AlignmentError String) : Prop :=
  ∃ front rear, source = .ok (unlines (front ++ lines ++ rear))

/-- The lines of each item stand among those of all items. -/
theorem standIn_flatMap {ι : Type} (lines : ι → List String) {items : List ι} {item : ι}
    (h : item ∈ items) {source : Except AlignmentError String} {front rear : List String}
    (hsource : source = .ok (unlines (front ++ (items.flatMap lines ++ rear)))) :
    StandIn (lines item) source := by
  obtain ⟨before, after, rfl⟩ := List.append_of_mem h
  refine ⟨front ++ before.flatMap lines, after.flatMap lines ++ rear, ?_⟩
  rw [hsource, List.flatMap_append, List.flatMap_cons]
  simp only [List.append_assoc]

namespace Compiled

/-- What sources have the lines of a compiled syscall: those of all schemas that it is in. -/
structure Emitted (c : Compiled) (cs : List Compiled) : Prop where
  decoder : StandIn (treeOf c).lines (decoderSource (Schemas.ofCompiled cs))
  record : StandIn (RecordStruct.ofSyscall c.record).lines (recordSource (Schemas.ofCompiled cs))
  wire : StandIn (Message.ofSyscall c.wire).rustLines (wireSource (Schemas.ofCompiled cs))
  proto : StandIn (Message.ofSyscall c.wire).protoLines (protoSource (Schemas.ofCompiled cs))

variable {c : Compiled} {cs : List Compiled}

/-- **The lines of a syscall are in the sources**, whatever it is compiled along with. -/
theorem emitted (hc : c ∈ cs) (h : ∀ other ∈ cs, other.Aligned) : c.Emitted cs := by
  have haligned := Schemas.checkAligned_eq_ok.mpr
    (Schemas.aligned_ofCompiled (List.ne_nil_of_mem hc) h)
  let schemas := Schemas.ofCompiled cs
  have hrecord : c.record ∈ schemas.record := List.mem_map_of_mem hc
  have hmessage : Message.ofSyscall c.wire ∈ Message.all schemas.wire :=
    List.mem_append_right _ (List.mem_map_of_mem (List.mem_map_of_mem hc))
  constructor
  · have hsource : decoderSource schemas = .ok (unlines (decoderLines schemas)) := by
      rw [decoderSource, haligned]
    have htrees : DecoderTree.ofSyscalls schemas.decoder schemas.record schemas.wire =
        cs.map treeOf := ofSyscalls_ofCompiled cs
    simp only [decoderLines, htrees, List.append_assoc] at hsource
    exact standIn_flatMap _ (List.mem_map_of_mem hc) hsource
  · have hsource : recordSource schemas = .ok (unlines (recordLines schemas.record ++ [])) := by
      rw [recordSource, haligned, List.append_nil]
    rw [recordLines, List.append_assoc (banner ++ _)] at hsource
    exact standIn_flatMap (fun s => (RecordStruct.ofSyscall s).lines) hrecord hsource
  · have hsource : wireSource schemas = .ok (unlines (wireLines schemas.wire)) := by
      rw [wireSource, haligned]
    simp only [wireLines, List.append_assoc] at hsource
    exact standIn_flatMap _ hmessage hsource
  · have hsource : protoSource schemas = .ok (unlines (protoLines schemas.wire)) := by
      rw [protoSource, haligned]
    simp only [protoLines, List.append_assoc] at hsource
    rw [← List.append_assoc banner] at hsource
    exact standIn_flatMap _ hmessage hsource

end Compiled

end Tracepoint
