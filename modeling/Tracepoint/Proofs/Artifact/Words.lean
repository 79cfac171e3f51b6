import Mathlib
import Tracepoint.Artifact.Message
import Tracepoint.Proofs.Artifact.Blocks
import Tracepoint.Proofs.Schema.Gathering
import Tracepoint.Proofs.Text.CamelCase
import Tracepoint.Proofs.Text.Digits

/-!
# The words of generated texts

All names that are put into generated texts are words of letters, digits and underscores, with a
number sign where a name is escaped.  So whatever separates them in a line can be told from them.

* `isWord_camelCase` — a camel case form is a word, whatever it is made of;
* `Compiled.WellNamed` — what the names of a compiled syscall are made of;
* `Gathered.wellNamed` — the names of syscalls that a directory is compiled to.
-/

set_option autoImplicit false

namespace Tracepoint

namespace Artifact

/-- Whether a character can be part of a word. -/
def isWordChar (c : Char) : Bool :=
  c.isAlphanum || c = '_' || c = '#'

/-- A text of letters, digits, underscores and number signs. -/
def IsWord (s : String) : Prop :=
  ∀ c ∈ s.toList, isWordChar c = true

instance (s : String) : Decidable (IsWord s) :=
  List.decidableBAll (fun c => isWordChar c = true) s.toList

namespace IsWord

variable {word : String}

theorem append {other : String} (h : IsWord word) (h' : IsWord other) : IsWord (word ++ other) := by
  intro c hc
  rw [String.toList_append] at hc
  rcases List.mem_append.mp hc with hc | hc
  · exact h c hc
  · exact h' c hc

theorem not_mem (h : IsWord word) {c : Char} (hc : isWordChar c = false) : c ∉ word.toList := by
  intro hmem
  rw [h c hmem] at hc
  cases hc

/-- A word ends where a separator starts that starts with another character. -/
theorem ends (h : IsWord word) {separator : String}
    (hseparator : (separator.toList.head?.map isWordChar) = some false) :
    Template.Ends word separator := by
  obtain ⟨c, hc, hword⟩ := Option.map_eq_some_iff.mp hseparator
  obtain ⟨cs, hcs⟩ := List.head?_eq_some_iff.mp hc
  exact ⟨c, cs, hcs, h.not_mem hword⟩

theorem newlines (h : IsWord word) : Text.newlines word = 0 :=
  Text.newlines_eq_zero.mpr (h.not_mem (by decide))

end IsWord

theorem isWord_repr (n : Nat) : IsWord n.repr := by
  intro c hc
  rw [Nat.toList_repr] at hc
  obtain ⟨d, hd, rfl⟩ := Text.Digits.mem_toDigits (by omega) hc
  have hdigits : ∀ d < 10, isWordChar (Nat.digitChar d) = true := by decide
  exact hdigits d hd

theorem isWordChar_of_isAlphanum {c : Char} (h : c.isAlphanum = true) : isWordChar c = true := by
  rw [isWordChar, h, Bool.true_or, Bool.true_or]

/-- **A camel case form is a word**, whatever it is made of. -/
theorem isWord_camelCase (s : String) : IsWord (Text.camelCase s) := by
  intro c hc
  rw [Text.toList_camelCase] at hc
  exact isWordChar_of_isAlphanum (Text.CamelCase.isAlphanum_of_mem hc)

theorem isWord_rustField {name : String} (h : IsWord name) : IsWord (rustField name) := by
  unfold rustField
  split
  · have hescape : IsWord "r#" := by decide
    exact hescape.append h
  · exact h

theorem isWord_pathField {name : String} (h : IsWord name) : IsWord (pathField name) :=
  h.append (by decide)

theorem isWord_of_isName {name : String} (h : FieldLine.IsName name.toList) : IsWord name := by
  intro c hc
  rcases FieldLine.cases_of_isNameChar (h.spelled c hc) with rfl | hlower | hdigit
  · rfl
  · exact isWordChar_of_isAlphanum (Text.CamelCase.isAlphanum_of_isLower hlower)
  · exact isWordChar_of_isAlphanum (Text.CamelCase.isAlphanum_of_isDigit hdigit)

end Artifact

/-! ## Compiled syscalls -/

open Artifact

/-- A considered syscall with fields that have words for names. -/
def Compiled.WellNamed (c : Compiled) : Prop :=
  ∃ name fields, c = ofFields name fields ∧ name ∈ consideredSyscalls ∧
    ∀ field ∈ fields, IsWord field.name

theorem Compiled.wellNamed_of_ofFormat {name format : String} {c : Compiled}
    (hname : name ∈ consideredSyscalls) (h : ofFormat name format = .ok c) : c.WellNamed := by
  obtain ⟨fields, hfields, rfl⟩ := ofFormat_eq_ok.mp h
  exact ⟨name, fields, rfl, hname,
    Field.forall_ofLines (fun _ _ h => isWord_of_isName (Field.ofLine_isName h)) hfields⟩

/-- **The names of whatever a directory is compiled to are words.** -/
theorem Gathered.wellNamed {entries : List DirectoryEntry} {cs : List Compiled}
    (h : entries.filterMap DirectoryEntry.compiled? = cs.map .ok) : ∀ c ∈ cs, c.WellNamed := by
  intro c hc
  obtain ⟨entry, -, hcompiled⟩ := (mem_compiled h).mp hc
  obtain ⟨syscall, text, hoffers, hok⟩ := DirectoryEntry.compiled?_eq_some.mp hcompiled
  exact Compiled.wellNamed_of_ofFormat hoffers.considered hok

end Tracepoint
