import Mathlib
import Tracepoint.Proofs.Artifact.Agreement

/-!
# Field names

A field of generated source has the name that it has in the kernel, spelled as a raw identifier
where that name is a keyword, and the path beside a descriptor has that name with an ending.  All
of this holds of names as format lines have them, in which there is no number sign.

* `unescaped`, `unescaped_rustField` — the name is read back from its spelling;
* `rustField_inj` — two names that are spelled alike are one;
* `isName_pathField`, `rustField_pathField` — a path has a name like those of format lines, and one
  that is never escaped;
* `camelCase_pathField`, `isDescriptorLabel_pathField` — its label ends in `Path`, so it is taken
  for no descriptor.
-/

set_option autoImplicit false

namespace Tracepoint.Artifact

/-! ## Spellings of raw names -/

/-- A field name without the mark of an escaped one. -/
def unescaped (field : String) : String :=
  (FieldLine.after? "r#".toList field.toList).elim field String.ofList

section Spellings

variable {name other : String}

theorem numberSign_not_mem (h : FieldLine.IsName name.toList) : '#' ∉ name.toList := by
  intro hmem
  have hchar := h.spelled _ hmem
  exact absurd hchar (by decide)

theorem isName_pathField (h : FieldLine.IsName name.toList) :
    FieldLine.IsName (pathField name).toList := by
  have hsuffix : ∀ c ∈ "_path".toList, FieldLine.isNameChar c = true :=
    List.all_eq_true.mp (by decide)
  rw [pathField, String.toList_append]
  refine ⟨by simp [h.nonempty], fun c hc => ?_⟩
  exact (List.mem_append.mp hc).elim (h.spelled c) (hsuffix c)

theorem escape_ne (h : FieldLine.IsName name.toList) (other : String) : "r#" ++ other ≠ name := by
  rintro rfl
  exact numberSign_not_mem h (by simp)

/-- **Raw names can be told from their spelling.** -/
theorem rustField_inj (h : FieldLine.IsName name.toList) (h' : FieldLine.IsName other.toList) :
    rustField name = rustField other ↔ name = other := by
  refine ⟨fun heq => ?_, congrArg rustField⟩
  unfold rustField at heq
  split at heq <;> split at heq
  · exact String.append_right_inj _ |>.mp heq
  · exact absurd heq (escape_ne h' _)
  · exact absurd heq.symm (escape_ne h _)
  · exact heq

theorem unescaped_rustField (h : FieldLine.IsName name.toList) :
    unescaped (rustField name) = name := by
  unfold rustField
  split
  · rw [unescaped, String.toList_append, FieldLine.after?_append, Option.elim_some,
      String.ofList_toList]
  · have hnot : ¬ "r#".toList <+: name.toList := by
      rintro ⟨tail, heq⟩
      refine escape_ne h (String.ofList tail) ?_
      rw [← String.toList_inj, String.toList_append, String.toList_ofList (l := tail)]
      exact heq
    rw [unescaped, FieldLine.after?_eq_none.mpr hnot, Option.elim_none]

theorem rustField_fd : rustField "fd" = "fd" := by decide

/-- The name of a path is no keyword, so it is not escaped. -/
theorem rustField_pathField (name : String) : rustField (pathField name) = pathField name := by
  have hkeywords : ∀ keyword ∈ rustKeywords, ¬ "_path".toList <:+ keyword.toList := by decide
  refine if_neg fun hmem => hkeywords _ hmem ?_
  rw [pathField, String.toList_append]
  exact List.suffix_append _ _

/-- **The label of a path** is that of the field and `Path`. -/
theorem camelCase_pathField (name : String) :
    Text.camelCase (pathField name) = Text.camelCase name ++ "Path" := by
  have hpath : pathField name = name ++ "_" ++ "path" := by
    rw [pathField, String.append_assoc]
    rfl
  have hparts : Text.camelCase (name ++ "_" ++ "path") =
      Text.camelCase name ++ Text.camelCase "path" :=
    Text.camelCase_append (c := '_') rfl name "path"
  have hlabel : Text.camelCase "path" = "Path" := by decide
  rw [hpath, hparts, hlabel]

/-- A path is no descriptor itself. -/
theorem isDescriptorLabel_pathField (name : String) :
    Field.isDescriptorLabel (Text.camelCase (pathField name)) = false := by
  have hne (label : String) (h : label.toList.length < 4) :
      Text.camelCase (pathField name) ≠ label := by
    rintro rfl
    rw [camelCase_pathField, String.toList_append, List.length_append] at h
    have hfour : "Path".toList.length = 4 := by decide
    omega
  simp [Field.isDescriptorLabel, hne "Fd" (by decide), hne "Dfd" (by decide)]

end Spellings

end Tracepoint.Artifact
