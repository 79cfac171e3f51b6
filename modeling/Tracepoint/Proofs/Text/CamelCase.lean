import Mathlib
import Tracepoint.Text.CamelCase

/-!
# Camel case

Converting to camel case carries one bit along: whether the next character starts a word.  After an
underscore or a space it does, whatever was before, so the words of an identifier are converted one
by one.

* `CamelCase.chars_append`, `camelCase_append` — what is parted by a separator is converted in
  parts;
* `camelCase_trimmed` — spaces around an identifier do not matter;
* `CamelCase.isAlphanum_of_mem` — nothing but ASCII letters and digits is left;
* `CamelCase.chars_idem` — a form without a small letter at its start is converted to itself.
-/

set_option autoImplicit false

namespace Tracepoint.Text

namespace CamelCase

/-! ## Characters -/

theorem isAlphanum_of_isLower {c : Char} (h : c.isLower = true) : c.isAlphanum = true := by
  rw [Char.isAlphanum, Char.isAlpha, h, Bool.or_true, Bool.true_or]

theorem isAlphanum_of_isDigit {c : Char} (h : c.isDigit = true) : c.isAlphanum = true := by
  rw [Char.isAlphanum, h, Bool.or_true]

theorem isAlpha_of_isDigit {c : Char} (h : c.isDigit = true) : c.isAlpha = false := by
  obtain ⟨-, hhi⟩ := Char.isDigit_iff_toNat.mp h
  have hnine : ('9' : Char).toNat = 57 := rfl
  rw [Bool.eq_false_iff]
  intro halpha
  have hletter : (65 ≤ c.toNat ∧ c.toNat ≤ 90) ∨ (97 ≤ c.toNat ∧ c.toNat ≤ 122) := by
    simpa [Char.isAlpha, Char.isUpper, Char.isLower, UInt32.le_iff_toNat_le, ← Char.toNat_val]
      using halpha
  omega

theorem isLower_of_isDigit {c : Char} (h : c.isDigit = true) : c.isLower = false :=
  (Bool.or_eq_false_iff.mp (isAlpha_of_isDigit h)).2

/-- A small letter can be told from its capital. -/
theorem toUpper_inj {c d : Char} (hc : c.isLower = true) (hd : d.isLower = true)
    (h : c.toUpper = d.toUpper) : c = d := by
  have hsmall {x : Char} (hx : x.isLower = true) : x.toUpper.toLower = x := by
    rw [Char.toLower_toUpper_eq_toLower,
      Char.toLower_eq_of_not_isUpper (Char.not_isUpper_of_isLower hx)]
  rw [← hsmall hc, h, hsmall hd]

/-- A small letter is a capital at the start of a word. -/
theorem letter_of_isLower {c : Char} (h : c.isLower = true) (start : Bool) :
    letter start c = [if start then c.toUpper else c] := by
  have hupper : c.isUpper = false := Bool.eq_false_iff.mpr (Char.not_isUpper_of_isLower h)
  have hdigit : c.isDigit = false := by
    rw [Bool.eq_false_iff]
    intro hdigit
    rw [isLower_of_isDigit hdigit] at h
    cases h
  rw [letter, hupper, hdigit, if_neg (by decide), if_pos h]

/-- Other letters and digits stay as they are. -/
theorem letter_of_not_isLower {c : Char} (h : c.isAlphanum = true) (hlower : c.isLower = false)
    (start : Bool) : letter start c = [c] := by
  have hkept : (c.isUpper || c.isDigit) = true := by
    simpa [Char.isAlphanum, Char.isAlpha, hlower] using h
  rw [letter, if_pos hkept]

/-- All else is dropped. -/
theorem letter_of_not_isAlphanum {c : Char} (h : c.isAlphanum = false) (start : Bool) :
    letter start c = [] := by
  simp only [Char.isAlphanum, Char.isAlpha, Bool.or_eq_false_iff] at h
  obtain ⟨⟨hupper, hlower⟩, hdigit⟩ := h
  rw [letter, hupper, hdigit, hlower, if_neg (by decide), if_neg (by decide)]

theorem isAlphanum_letter {start : Bool} {c d : Char} (h : d ∈ letter start c) :
    d.isAlphanum = true := by
  cases halphanum : c.isAlphanum with
  | false => simp [letter_of_not_isAlphanum halphanum] at h
  | true =>
    cases hlower : c.isLower with
    | false =>
      rw [letter_of_not_isLower halphanum hlower, List.mem_singleton] at h
      rwa [h]
    | true =>
      rw [letter_of_isLower hlower, List.mem_singleton] at h
      cases start with
      | false => rwa [h]
      | true =>
        have halpha : c.isAlpha = true := by rw [Char.isAlpha, hlower, Bool.or_true]
        rw [h, if_pos rfl, Char.isAlphanum, Char.isAlpha_toUpper_eq_isAlpha, halpha, Bool.true_or]

theorem letter_inside {c : Char} (h : c.isAlphanum = true) : letter false c = [c] := by
  cases hlower : c.isLower with
  | false => exact letter_of_not_isLower h hlower false
  | true => exact letter_of_isLower hlower false

theorem letter_separator {c : Char} (h : isSeparator c = true) (start : Bool) :
    letter start c = [] := by
  simp only [isSeparator, Bool.or_eq_true, decide_eq_true_eq] at h
  rcases h with rfl | rfl <;> rfl

theorem isSeparator_of_isAlphanum {c : Char} (h : c.isAlphanum = true) : isSeparator c = false := by
  rw [Bool.eq_false_iff]
  intro hseparator
  simp only [isSeparator, Bool.or_eq_true, decide_eq_true_eq] at hseparator
  rcases hseparator with rfl | rfl <;> exact absurd h (by decide)

/-! ## Texts -/

/-- **What is parted by a separator is converted in parts**: the separator leaves nothing behind but
the start of a word. -/
theorem chars_append {c : Char} (h : isSeparator c = true) (start : Bool) (cs rest : List Char) :
    chars start (cs ++ c :: rest) = chars start cs ++ chars true rest := by
  induction cs generalizing start with
  | nil =>
    show letter start c ++ chars (isSeparator c) rest = chars true rest
    rw [letter_separator h, h, List.nil_append]
  | cons d cs ih => rw [List.cons_append, chars, chars, ih, List.append_assoc]

/-- Separators alone leave nothing. -/
theorem chars_separators {cs : List Char} (h : ∀ c ∈ cs, isSeparator c = true) (start : Bool) :
    chars start cs = [] := by
  induction cs generalizing start with
  | nil => rfl
  | cons c cs ih =>
    obtain ⟨hc, hcs⟩ := List.forall_mem_cons.mp h
    rw [chars, letter_separator hc, ih hcs, List.append_nil]

/-- Separators in front leave nothing either. -/
theorem chars_separators_append {cs : List Char} (h : ∀ c ∈ cs, isSeparator c = true)
    (rest : List Char) : chars true (cs ++ rest) = chars true rest := by
  induction cs with
  | nil => rfl
  | cons c cs ih =>
    obtain ⟨hc, hcs⟩ := List.forall_mem_cons.mp h
    rw [List.cons_append, chars, letter_separator hc, hc, List.nil_append, ih hcs]

/-- Nor do they at the end. -/
theorem chars_append_separators {cs : List Char} (h : ∀ c ∈ cs, isSeparator c = true)
    (start : Bool) (front : List Char) : chars start (front ++ cs) = chars start front := by
  cases cs with
  | nil => rw [List.append_nil]
  | cons c cs =>
    obtain ⟨hc, hcs⟩ := List.forall_mem_cons.mp h
    rw [chars_append hc, chars_separators hcs, List.append_nil]

/-- **Nothing but ASCII letters and digits is left.** -/
theorem isAlphanum_of_mem {cs : List Char} {start : Bool} {c : Char} (h : c ∈ chars start cs) :
    c.isAlphanum = true := by
  induction cs generalizing start with
  | nil => simp [chars] at h
  | cons d cs ih =>
    rw [chars] at h
    rcases List.mem_append.mp h with h | h
    · exact isAlphanum_letter h
    · exact ih h

/-- Letters and digits inside a word stay as they are. -/
theorem chars_inside {cs : List Char} (h : ∀ c ∈ cs, c.isAlphanum = true) :
    chars false cs = cs := by
  induction cs with
  | nil => rfl
  | cons c cs ih =>
    obtain ⟨hc, hcs⟩ := List.forall_mem_cons.mp h
    rw [chars, letter_inside hc, isSeparator_of_isAlphanum hc, ih hcs, List.singleton_append]

/-- A word that starts with no small letter stays as it is. -/
theorem chars_of_head {cs : List Char} (halphanum : ∀ c ∈ cs, c.isAlphanum = true)
    (hhead : ∀ c ∈ cs.head?, c.isLower = false) : chars true cs = cs := by
  cases cs with
  | nil => rfl
  | cons c cs =>
    obtain ⟨hc, hcs⟩ := List.forall_mem_cons.mp halphanum
    have hlower : c.isLower = false := hhead c rfl
    rw [chars, letter_of_not_isLower hc hlower, isSeparator_of_isAlphanum hc, chars_inside hcs,
      List.singleton_append]

/-- **Converting again changes nothing**, if the first result starts with no small letter. -/
theorem chars_idem {cs : List Char} (h : ∀ c ∈ (chars true cs).head?, c.isLower = false) :
    chars true (chars true cs) = chars true cs :=
  chars_of_head (fun _ hc => isAlphanum_of_mem hc) h

/-! ## Spaces around a text -/

theorem isSeparator_of_spaces {spaces : List Char} (h : ∀ c ∈ spaces, c = ' ') :
    ∀ c ∈ spaces, isSeparator c = true := by
  intro c hc
  rw [h c hc]
  rfl

/-- Spaces around a text leave nothing. -/
theorem chars_between_spaces {front back : List Char} (hfront : ∀ c ∈ front, c = ' ')
    (hback : ∀ c ∈ back, c = ' ') (cs : List Char) :
    chars true (front ++ (cs ++ back)) = chars true cs := by
  rw [chars_separators_append (isSeparator_of_spaces hfront),
    chars_append_separators (isSeparator_of_spaces hback)]

/-- Characters with the spaces that are cut off put back. -/
theorem exists_eq_trimmed (cs : List Char) : ∃ front back,
    (∀ c ∈ front, c = ' ') ∧ (∀ c ∈ back, c = ' ') ∧ cs = front ++ (trimmed cs ++ back) := by
  obtain ⟨rest, hrest⟩ : ∃ rest, cs.dropWhile (· = ' ') = rest := ⟨_, rfl⟩
  refine ⟨cs.takeWhile (· = ' '), (rest.reverse.takeWhile (· = ' ')).reverse, ?_, ?_, ?_⟩
  · intro c hc
    simpa using List.mem_takeWhile_imp hc
  · intro c hc
    simpa using List.mem_takeWhile_imp (List.mem_reverse.mp hc)
  · rw [trimmed, hrest, ← List.reverse_append, List.takeWhile_append_dropWhile,
      List.reverse_reverse, ← hrest, List.takeWhile_append_dropWhile]

/-- So it does not matter that they are cut off first. -/
theorem chars_trimmed (cs : List Char) : chars true (trimmed cs) = chars true cs := by
  obtain ⟨front, back, hfront, hback, hcs⟩ := exists_eq_trimmed cs
  calc chars true (trimmed cs)
      = chars true (front ++ (trimmed cs ++ back)) := (chars_between_spaces hfront hback _).symm
    _ = chars true cs := congrArg (chars true) hcs.symm

end CamelCase

/-! ## Strings -/

open CamelCase

theorem toList_camelCase (s : String) : (camelCase s).toList = chars true s.toList := by
  rw [camelCase, String.toList_ofList, chars_trimmed]

theorem camelCase_append {c : Char} (h : isSeparator c = true) (s t : String) :
    camelCase (s ++ c.toString ++ t) = camelCase s ++ camelCase t := by
  rw [← String.toList_inj, String.toList_append, toList_camelCase, toList_camelCase,
    toList_camelCase, String.toList_append, String.toList_append, Char.toString,
    String.toList_singleton, List.append_assoc, List.singleton_append, chars_append h]

/-- Spaces around an identifier do not matter. -/
theorem camelCase_trimmed {front back : List Char} (hfront : ∀ c ∈ front, c = ' ')
    (hback : ∀ c ∈ back, c = ' ') (cs : List Char) :
    camelCase (String.ofList (front ++ (cs ++ back))) = camelCase (String.ofList cs) := by
  rw [← String.toList_inj, toList_camelCase, toList_camelCase, String.toList_ofList,
    String.toList_ofList, chars_between_spaces hfront hback]

end Tracepoint.Text
