import Mathlib
import Tracepoint.Proofs.Schema.Parsing
import Tracepoint.Proofs.Text.CamelCase

/-!
# Which fields are descriptors

A parameter is taken for a descriptor if its name in camel case is `Fd` or `Dfd`.  A name that a
line can declare has no capitals, so a capital in its camel case form stands where a word starts: a
form with one capital, at its front, comes from a single word, and from nothing but underscores
around it.

* `FieldLine.capturable_iff` — the names that lines can declare;
* `Text.CamelCase.chars_eq_capitalised` — what a form with one capital comes from;
* `label_contract` — joining goes with conversion, and exactly `fd` and `dfd`, with any underscores
  around them, are descriptors.
-/

set_option autoImplicit false

namespace Tracepoint

open Text (camelCase)
open Text.CamelCase (chars)

/-! ## Names that a line can declare -/

namespace FieldLine

/-- The pattern of field lines captures a type and a name in a line. -/
structure Captured (line type name : List Char) : Prop where
  oneLine : '\n' ∉ line
  captures : pattern.captures? line = some (groups type name)

namespace Captured

variable {line type name : List Char}

theorem split (h : Captured line type name) : split? line = some (type, name) :=
  (Field.captures?_eq_some h.oneLine).mp h.captures

theorem isName (h : Captured line type name) : IsName name := by
  obtain ⟨rest, -, hfirst⟩ := split?_eq_some.mp h.split
  exact hfirst.1.1

theorem field_name (h : Captured line type name) {syscall : String} {field : Field}
    (hfield : Field.ofLine syscall line = .ok (some field)) : field.name.toList = name := by
  obtain ⟨type', hsplit⟩ := Field.name_of_ofLine hfield
  rw [h.split] at hsplit
  cases hsplit
  rfl

end Captured

/-- A line that declares an `int`. -/
def intLine (name : List Char) : List Char :=
  '\t' :: (mark ++ ("int".toList ++ ' ' :: (name ++ [';'])))

theorem newline_not_mem_intLine {name : List Char} (h : IsName name) : '\n' ∉ intLine name := by
  have hname : '\n' ∉ name := fun hmem => absurd (h.spelled _ hmem) (by decide)
  have hmark : '\n' ∉ mark := by decide
  simp [intLine, hmark, hname]

theorem split?_intLine {name : List Char} (h : IsName name) :
    split? (intLine name) = some ("int".toList, name) := by
  have hname : nameAtFront? (' ' :: (name ++ [';'])) = some name :=
    nameAtFront?_eq_some.mpr ⟨h, [], rfl⟩
  have hfirst (c : Char) (cs : List Char) (hc : c ≠ ' ') : nameAtFront? (c :: cs) = none := by
    unfold nameAtFront?
    split
    · rename_i heq
      exact (hc (List.cons.inj heq).1).elim
    · rfl
  have hblank : ∀ c ∈ ['\t'], Text.isBlank c = true := by
    intro c hc
    rw [List.mem_singleton.mp hc]
    rfl
  have hdeclaration : declaration? (intLine name) = some ("int".toList ++ ' ' :: (name ++ [';'])) :=
    declaration?_eq_some.mpr (firstMark_of_blanks (List.cons_ne_nil _ _) hblank _)
  rw [split?, hdeclaration, Option.bind_some]
  simp [typeAndName?, hfirst, hname]

theorem captured_intLine {name : List Char} (h : IsName name) :
    Captured (intLine name) "int".toList name := by
  have hline := newline_not_mem_intLine h
  exact ⟨hline, (Field.captures?_eq_some hline).mpr (split?_intLine h)⟩

/-- A name that the pattern captures in some line. -/
def Capturable (name : List Char) : Prop :=
  ∃ line type, Captured line type name

/-- **The names that can be captured** are those made of the characters of names. -/
theorem capturable_iff {name : List Char} : Capturable name ↔ IsName name := by
  constructor
  · rintro ⟨line, type, h⟩
    exact h.isName
  · intro h
    exact ⟨_, _, captured_intLine h⟩

end FieldLine

/-! ## Names in camel case -/

namespace Text.CamelCase

open FieldLine (isNameChar cases_of_isNameChar)

variable {name word : List Char}

/-- How the conversion goes on after a small letter or a digit. -/
theorem chars_cons_of_isAlphanum {c : Char} (h : c.isAlphanum = true) (start : Bool)
    (cs : List Char) : chars start (c :: cs) = letter start c ++ chars false cs := by
  rw [chars, isSeparator_of_isAlphanum h]

theorem chars_underscore_cons (start : Bool) (cs : List Char) :
    chars start ('_' :: cs) = chars true cs :=
  chars_append (c := '_') rfl start [] cs

/-- **A converted name starts with no small letter.** -/
theorem isLower_head? (hname : ∀ c ∈ name, isNameChar c = true) :
    ∀ c ∈ (chars true name).head?, c.isLower = false := by
  induction name with
  | nil => simp [chars]
  | cons d name ih =>
    obtain ⟨hd, hrest⟩ := List.forall_mem_cons.mp hname
    rcases cases_of_isNameChar hd with rfl | hlower | hdigit
    · rw [chars_underscore_cons]
      exact ih hrest
    · rw [chars_cons_of_isAlphanum (isAlphanum_of_isLower hlower), letter_of_isLower hlower]
      rintro c ⟨⟩
      exact Char.isLower_toUpper_eq_false d
    · have hlower := isLower_of_isDigit hdigit
      have halphanum := isAlphanum_of_isDigit hdigit
      rw [chars_cons_of_isAlphanum halphanum, letter_of_not_isLower halphanum hlower]
      rintro c ⟨⟩
      exact hlower

/-- A name of which nothing is left has nothing but underscores. -/
theorem underscores_of_chars {start : Bool} (hname : ∀ c ∈ name, isNameChar c = true)
    (h : chars start name = []) : ∃ n, name = List.replicate n '_' := by
  induction name generalizing start with
  | nil => exact ⟨0, rfl⟩
  | cons d name ih =>
    obtain ⟨hd, hrest⟩ := List.forall_mem_cons.mp hname
    rcases cases_of_isNameChar hd with rfl | hlower | hdigit
    · rw [chars_underscore_cons] at h
      obtain ⟨n, rfl⟩ := ih hrest h
      exact ⟨n + 1, rfl⟩
    · rw [chars_cons_of_isAlphanum (isAlphanum_of_isLower hlower), letter_of_isLower hlower] at h
      cases h
    · have halphanum := isAlphanum_of_isDigit hdigit
      rw [chars_cons_of_isAlphanum halphanum,
        letter_of_not_isLower halphanum (isLower_of_isDigit hdigit)] at h
      cases h

/-- Small letters inside a word are left of themselves alone: after an underscore there would be a
capital or a digit. -/
theorem eq_append_of_chars (hname : ∀ c ∈ name, isNameChar c = true)
    (hword : ∀ c ∈ word, c.isLower = true) (h : chars false name = word) :
    ∃ n, name = word ++ List.replicate n '_' := by
  induction name generalizing word with
  | nil => exact ⟨0, by rw [← h]; rfl⟩
  | cons d name ih =>
    obtain ⟨hd, hrest⟩ := List.forall_mem_cons.mp hname
    rcases cases_of_isNameChar hd with rfl | hlower | hdigit
    · rw [chars_underscore_cons] at h
      have hnil : word = [] := by
        cases word with
        | nil => rfl
        | cons c word =>
          have hhead := isLower_head? hrest c (by rw [h]; rfl)
          rw [hword c List.mem_cons_self] at hhead
          cases hhead
      subst hnil
      have hall : chars true ('_' :: name) = [] := by rw [chars_underscore_cons, h]
      exact underscores_of_chars hname hall
    · rw [chars_cons_of_isAlphanum (isAlphanum_of_isLower hlower), letter_of_isLower hlower] at h
      subst h
      obtain ⟨n, hn⟩ := ih hrest (fun c hc => hword c (.tail _ hc)) rfl
      exact ⟨n, congrArg (d :: ·) hn⟩
    · have halphanum := isAlphanum_of_isDigit hdigit
      have hnot := isLower_of_isDigit hdigit
      rw [chars_cons_of_isAlphanum halphanum, letter_of_not_isLower halphanum hnot] at h
      subst h
      rw [hword d List.mem_cons_self] at hnot
      cases hnot

/-- **A capitalised word is left of the word alone**, with underscores around it. -/
theorem chars_eq_capitalised {c : Char} (hname : ∀ d ∈ name, isNameChar d = true)
    (hword : ∀ d ∈ c :: word, d.isLower = true) :
    chars true name = c.toUpper :: word ↔
      ∃ m n, name = List.replicate m '_' ++ (c :: word ++ List.replicate n '_') := by
  have hc := hword c List.mem_cons_self
  constructor
  · intro h
    induction name with
    | nil => cases h
    | cons d name ih =>
      obtain ⟨hd, hrest⟩ := List.forall_mem_cons.mp hname
      rcases cases_of_isNameChar hd with rfl | hlower | hdigit
      · rw [chars_underscore_cons] at h
        obtain ⟨m, n, rfl⟩ := ih hrest h
        exact ⟨m + 1, n, rfl⟩
      · rw [chars_cons_of_isAlphanum (isAlphanum_of_isLower hlower), letter_of_isLower hlower] at h
        obtain ⟨hfirst, hinside⟩ := List.cons.inj h
        obtain rfl := toUpper_inj hlower hc hfirst
        obtain ⟨n, rfl⟩ :=
          eq_append_of_chars hrest (fun c hc => hword c (.tail _ hc)) hinside
        exact ⟨0, n, rfl⟩
      · have halphanum := isAlphanum_of_isDigit hdigit
        rw [chars_cons_of_isAlphanum halphanum,
          letter_of_not_isLower halphanum (isLower_of_isDigit hdigit)] at h
        obtain ⟨rfl, -⟩ := List.cons.inj h
        -- a capital is no digit
        have hcapital := isAlpha_of_isDigit hdigit
        rw [Char.isAlpha_toUpper_eq_isAlpha, Char.isAlpha, hc, Bool.or_true] at hcapital
        cases hcapital
  · rintro ⟨m, n, rfl⟩
    have hseparators (k : Nat) : ∀ d ∈ List.replicate k '_', isSeparator d = true := by
      intro d hd
      rw [List.eq_of_mem_replicate hd]
      rfl
    rw [chars_separators_append (hseparators m), chars_append_separators (hseparators n),
      chars_cons_of_isAlphanum (isAlphanum_of_isLower hc), letter_of_isLower hc,
      chars_inside fun d hd => isAlphanum_of_isLower (hword d (.tail _ hd))]
    rfl

end Text.CamelCase

/-! ## Descriptors -/

/-- `fd` or `dfd`, with underscores around it. -/
def IsDescriptorName (name : List Char) : Prop :=
  ∃ word ∈ ["fd".toList, "dfd".toList], ∃ m n,
    name = List.replicate m '_' ++ (word ++ List.replicate n '_')

theorem Field.isDescriptorLabel_iff {name : List Char}
    (hname : ∀ c ∈ name, FieldLine.isNameChar c = true) :
    Field.isDescriptorLabel (camelCase (String.ofList name)) = true ↔ IsDescriptorName name := by
  have hlabel (label : String) :
      camelCase (String.ofList name) = label ↔ chars true name = label.toList := by
    rw [← String.toList_inj, Text.toList_camelCase, String.toList_ofList]
  have hfd : ∀ c ∈ ['f', 'd'], c.isLower = true := by simp
  have hdfd : ∀ c ∈ ['d', 'f', 'd'], c.isLower = true := by simp
  simp only [isDescriptorLabel, Bool.or_eq_true, decide_eq_true_eq, hlabel, IsDescriptorName,
    List.mem_cons, List.not_mem_nil, or_false, exists_eq_or_imp, exists_eq_left]
  exact or_congr (Text.CamelCase.chars_eq_capitalised hname hfd)
    (Text.CamelCase.chars_eq_capitalised hname hdfd)

/-! ## The contract -/

/-- What becomes of an identifier, alone and joined to another. -/
structure LabelContract (s t : String) : Prop where
  underscore : camelCase (s ++ "_" ++ t) = camelCase s ++ camelCase t
  space : camelCase (s ++ " " ++ t) = camelCase s ++ camelCase t
  /-- Only ASCII letters and digits are left. -/
  alphanumeric : ∀ c ∈ (camelCase s).toList, c.isAlphanum = true
  /-- It does not matter whether spaces around an identifier are cut off first. -/
  trimmed : ∀ m n, camelCase (String.ofList
    (List.replicate m ' ' ++ (s.toList ++ List.replicate n ' '))) = camelCase s

/-- What becomes of a field name that a line can declare. -/
structure DescriptorContract (name : List Char) : Prop where
  /-- Some line makes parameters of it, unless it stands for the number of the syscall. -/
  declared : String.ofList name ≠ Field.syscallNumber → ∀ syscall, ∃ line type field,
    FieldLine.Captured line type name ∧ Field.ofLine syscall line = .ok (some field)
  /-- Whatever line does, the parameters need a path exactly if the name is that of a descriptor. -/
  needsPath_iff : ∀ syscall line type field, FieldLine.Captured line type name →
    Field.ofLine syscall line = .ok (some field) → ∀ {τ : Type} (position : Nat) (ty : τ),
      (field.param position ty).needsPath = true ↔ IsDescriptorName name
  /-- The label of a label is the label. -/
  idem : camelCase (camelCase (String.ofList name)) = camelCase (String.ofList name)

theorem labelContract (s t : String) : LabelContract s t where
  underscore := Text.camelCase_append (c := '_') rfl s t
  space := Text.camelCase_append (c := ' ') rfl s t
  alphanumeric c hc := by
    rw [Text.toList_camelCase] at hc
    exact Text.CamelCase.isAlphanum_of_mem hc
  trimmed m n := by
    have hspaces (k : Nat) : ∀ c ∈ List.replicate k ' ', c = ' ' :=
      fun _ => List.eq_of_mem_replicate
    have h := Text.camelCase_trimmed (hspaces m) (hspaces n) s.toList
    rwa [String.ofList_toList] at h

/-- A line that declares an `int` of a name makes a field of it. -/
theorem FieldLine.ofLine_intLine {name : List Char} (h : IsName name)
    (hnumber : String.ofList name ≠ Field.syscallNumber) (syscall : String) :
    ∃ field, Field.ofLine syscall (intLine name) = .ok (some field) := by
  rw [ofLine_of_split (split?_intLine h), if_neg hnumber]
  exact ⟨_, rfl⟩

theorem descriptorContract {name : List Char} (h : FieldLine.IsName name) :
    DescriptorContract name where
  declared hnumber syscall := by
    obtain ⟨field, hfield⟩ := FieldLine.ofLine_intLine h hnumber syscall
    exact ⟨_, _, field, FieldLine.captured_intLine h, hfield⟩
  needsPath_iff := by
    intro syscall line type field hcaptured hfield τ position ty
    have hname : field.name = String.ofList name := by
      rw [← hcaptured.field_name hfield, String.ofList_toList]
    rw [Field.needsPath_param, hname]
    exact Field.isDescriptorLabel_iff h.spelled
  idem := by
    rw [← String.toList_inj, Text.toList_camelCase, Text.toList_camelCase, String.toList_ofList]
    exact Text.CamelCase.chars_idem (Text.CamelCase.isLower_head? h.spelled)

/-- **Labels are made word by word**, for any two identifiers, and they mark exactly the
descriptors, for every name that a line can declare. -/
theorem label_contract (s t : String) :
    LabelContract s t ∧ ∀ name, FieldLine.Capturable name → DescriptorContract name :=
  ⟨labelContract s t, fun _ h => descriptorContract (FieldLine.capturable_iff.mp h)⟩

/-- A descriptor with underscores around it. -/
theorem label_paddedDescriptor :
    FieldLine.Capturable "__dfd_".toList ∧ DescriptorContract "__dfd_".toList ∧
      IsDescriptorName "__dfd_".toList ∧
      camelCase ("sys_enter" ++ "_" ++ "mkdirat") = "SysEnterMkdirat" := by
  have hname : FieldLine.Capturable "__dfd_".toList :=
    FieldLine.capturable_iff.mpr ⟨by decide, List.all_eq_true.mp (by decide)⟩
  obtain ⟨hlabel, hdescriptor⟩ := label_contract "sys_enter" "mkdirat"
  refine ⟨hname, hdescriptor _ hname, ⟨"dfd".toList, by simp, 2, 1, rfl⟩, ?_⟩
  rw [hlabel.underscore]
  decide +kernel

end Tracepoint
