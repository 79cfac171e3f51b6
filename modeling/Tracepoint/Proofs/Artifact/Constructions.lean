import Mathlib
import Tracepoint.Artifact.Decoder
import Tracepoint.Proofs.Artifact.LockStep
import Tracepoint.Proofs.Artifact.Words
import Tracepoint.Proofs.Text.Pattern

/-!
# Messages that a decoder constructs

A decoder source constructs a message wherever it names a variant of the envelope.  Every line of
the source that names one is read, wherever in the line that is.

* `constructions_of_quiet` — a line that keeps quiet names no variant;
* `Quiet.quote` — quoting a text keeps it quiet, whatever it is;
* `constructions_decoderLines` — what a decoder source constructs: one message per syscall.
-/

set_option autoImplicit false

namespace Tracepoint.Artifact

open FieldLine (after? after?_append after?_eq_some)
open Text (newlines newlines_append newlines_eq_zero firstAt firstAt_eq_none)

/-! ## Constructions -/

/-- A field that a message is constructed with, and the field of the event that its value is made
of. -/
structure Assignment where
  field : String
  source : String
  deriving DecidableEq, Repr

/-- Reads a field that a message is constructed with. -/
def Assignment.read? (line : String) : Option Assignment :=
  match Template.read? ⟨"                ", [": self.", ".", "(),"]⟩ line with
  | some [field, source, _] => some ⟨field, source⟩
  | _ => none

/-- What stands before the name of a variant. -/
def variantMark : List Char := "metric::Event::".toList

/-- Constructions of messages: all that follows the mark in its line, then fields. -/
def constructions : Grammar String Assignment where
  header? line := (firstAt (after? variantMark) line.toList).map fun found => String.ofList found.2
  closes line := line = "            \x7d)),"
  entryOf? := Assignment.read?

/-! ## Quiet texts -/

/-- How much of `::E` has been seen after one more character.  Three is all of it, or a newline. -/
def seen : Nat → Char → Nat
  | 0, c => if c = ':' then 1 else if c = '\n' then 3 else 0
  | 1, c => if c = ':' then 2 else if c = '\n' then 3 else 0
  | 2, c => if c = ':' then 2 else if c = 'E' ∨ c = '\n' then 3 else 0
  | q, _ => q

/-- A text on one line in which `::E` is not seen, nor begun at its end. -/
def Quiet (s : String) : Prop :=
  s.toList.foldl seen 0 = 0

instance (s : String) : Decidable (Quiet s) :=
  inferInstanceAs (Decidable (_ = _))

theorem seen_le {q : Nat} (hq : q ≤ 3) (c : Char) : seen q c ≤ 3 := by
  interval_cases q <;> grind [seen]

/-- Where more was seen before, no less is seen after. -/
theorem seen_mono {p q : Nat} (h : p ≤ q) (hq : q ≤ 3) (c : Char) : seen p c ≤ seen q c := by
  interval_cases q <;> interval_cases p <;> grind [seen]

theorem foldl_seen_le {q : Nat} (hq : q ≤ 3) (cs : List Char) : cs.foldl seen q ≤ 3 := by
  induction cs generalizing q with
  | nil => exact hq
  | cons c cs ih => exact ih (seen_le hq c)

theorem foldl_seen_three (cs : List Char) : cs.foldl seen 3 = 3 := by
  induction cs with
  | nil => rfl
  | cons c cs ih => exact ih

theorem foldl_seen_zero {cs : List Char} (hcolon : ':' ∉ cs) (hnewline : '\n' ∉ cs) :
    cs.foldl seen 0 = 0 := by
  induction cs with
  | nil => rfl
  | cons c cs ih =>
    obtain ⟨hc, hcolon⟩ := List.ne_and_not_mem_of_not_mem_cons hcolon
    obtain ⟨hd, hnewline⟩ := List.ne_and_not_mem_of_not_mem_cons hnewline
    have hzero : seen 0 c = 0 := by simp [seen, hc.symm, hd.symm]
    rw [List.foldl_cons, hzero]
    exact ih hcolon hnewline

/-- What is seen in a text that keeps quiet is neither a newline nor the mark. -/
theorem Quiet.not_infix {s : String} (h : Quiet s) {cs : List Char}
    (hcs : ∀ q ≤ 3, cs.foldl seen q = 3) : ¬ cs <:+: s.toList := by
  rintro ⟨before, after, heq⟩
  rw [Quiet, ← heq, List.foldl_append, List.foldl_append,
    hcs _ (foldl_seen_le (Nat.zero_le 3) before), foldl_seen_three] at h
  cases h

theorem Quiet.newlines {s : String} (h : Quiet s) : newlines s = 0 := by
  rw [newlines_eq_zero, ← List.singleton_infix_iff]
  refine h.not_infix fun q hq => ?_
  interval_cases q <;> rfl

/-- **A line that keeps quiet names no variant.** -/
theorem constructions_of_quiet {line : String} (h : Quiet line) :
    constructions.header? line = none := by
  show (firstAt (after? variantMark) line.toList).map _ = none
  rw [Option.map_eq_none_iff, firstAt_eq_none]
  rintro before rest ⟨marked, hline, hmarked⟩
  have hmark : ∀ q ≤ 3, variantMark.foldl seen q = 3 := by
    intro q hq
    interval_cases q <;> rfl
  refine h.not_infix hmark ⟨before, rest, ?_⟩
  rw [hline, after?_eq_some.mp hmarked, List.append_assoc]

theorem Quiet.append {a b : String} (ha : Quiet a) (hb : Quiet b) : Quiet (a ++ b) := by
  rw [Quiet, String.toList_append, List.foldl_append, ha, hb]

theorem foldl_literal {cs : List Char} {q : Nat} (h : cs.foldl seen 0 = q) :
    (String.ofList cs).toList.foldl seen 0 = q := by
  rw [String.toList_ofList, h]

theorem quiet_literal {cs : List Char} (h : cs.foldl seen 0 = 0) : Quiet (String.ofList cs) :=
  foldl_literal h

theorem IsWord.quiet {word : String} (h : IsWord word) : Quiet word :=
  foldl_seen_zero (h.not_mem (by decide)) (h.not_mem (by decide))

theorem quiet_repr (n : Nat) : Quiet n.repr :=
  (isWord_repr n).quiet

theorem quiet_join {texts : List String} (h : ∀ s ∈ texts, Quiet s) :
    Quiet (String.join texts) := by
  induction texts with
  | nil => rfl
  | cons s texts ih =>
    obtain ⟨hs, htexts⟩ := List.forall_mem_cons.mp h
    rw [String.join_cons]
    exact hs.append (ih htexts)

theorem quiet_intercalate {separator : String} (hseparator : Quiet separator)
    {texts : List String} (h : ∀ s ∈ texts, Quiet s) : Quiet (separator.intercalate texts) := by
  induction texts with
  | nil =>
    rw [String.intercalate_nil]
    rfl
  | cons s texts ih =>
    obtain ⟨hs, htexts⟩ := List.forall_mem_cons.mp h
    cases texts with
    | nil => simpa using hs
    | cons t texts =>
      rw [String.intercalate_cons_cons]
      exact (hs.append hseparator).append (ih htexts)

/-! ## Quoted texts -/

theorem seen_backslash {q : Nat} (hq : q < 3) : seen q '\\' = 0 := by
  interval_cases q <;> rfl

/-- A character is quoted as it is, or by a backslash and more in which nothing is seen. -/
theorem escape_cases (c : Char) :
    Text.Quoted.escape c = [c] ∨
      ∃ cs, Text.Quoted.escape c = '\\' :: cs ∧ cs.foldl seen 0 = 0 := by
  have hcodePoint : ∃ cs, Text.Quoted.codePoint c = '\\' :: cs ∧ cs.foldl seen 0 = 0 := by
    have hcolon : ':' ∉ Nat.toDigits 16 c.toNat :=
      Text.Digits.not_mem_toDigits (by omega) (by omega) (by decide) _
    have hnewline : '\n' ∉ Nat.toDigits 16 c.toNat :=
      Text.newline_not_mem_toDigits (by omega) (by omega) _
    exact ⟨_, rfl, foldl_seen_zero (by simp [hcolon]) (by simp [hnewline])⟩
  unfold Text.Quoted.escape
  split_ifs
  iterate 6 exact .inr ⟨_, rfl, rfl⟩
  · exact .inr hcodePoint
  · exact .inl rfl

/-- A character that is not quoted as it is only makes less to be seen. -/
theorem foldl_seen_escape {p q : Nat} (h : p ≤ q) (hq : q ≤ 3) (c : Char) :
    (Text.Quoted.escape c).foldl seen p ≤ seen q c := by
  rcases escape_cases c with hc | ⟨cs, hc, hzero⟩
  · rw [hc]
    exact seen_mono h hq c
  · rw [hc, List.foldl_cons]
    by_cases hp : p = 3
    · have hq : q = 3 := by omega
      rw [hp, hq]
      show cs.foldl seen 3 ≤ 3
      rw [foldl_seen_three]
    · rw [seen_backslash (by omega), hzero]
      exact Nat.zero_le _

/-- **Quoting keeps a text quiet.** -/
theorem Quiet.quote {s : String} (h : Quiet s) : Quiet (Text.Quoted.quote s) := by
  have hle : ∀ (cs : List Char) (p q : Nat), p ≤ q → q ≤ 3 →
      (cs.flatMap Text.Quoted.escape).foldl seen p ≤ cs.foldl seen q := by
    intro cs
    induction cs with
    | nil =>
      intro p q h _
      exact h
    | cons c cs ih =>
      intro p q h hq
      rw [List.flatMap_cons, List.foldl_append, List.foldl_cons]
      exact ih _ _ (foldl_seen_escape h hq c) (seen_le hq c)
  have hbody : (s.toList.flatMap Text.Quoted.escape).foldl seen 0 = 0 := by
    have hseen := hle s.toList 0 0 (Nat.le_refl 0) (Nat.zero_le 3)
    rw [show s.toList.foldl seen 0 = 0 from h] at hseen
    exact Nat.le_zero.mp hseen
  have hquote : seen 0 '"' = 0 := rfl
  rw [Quiet, Text.Quoted.quote, String.toList_ofList, List.cons_append, List.foldl_cons, hquote,
    List.foldl_append, hbody]
  rfl

/-! ## Decoders -/

/-- A decoder with words for its names, and expressions that keep quiet. -/
structure DecoderTree.WellSpelled (t : DecoderTree) : Prop where
  typeName : IsWord t.typeName
  event : IsWord t.event
  fields : ∀ field ∈ t.fields, IsWord field.1
  argNames : ∀ name ∈ t.argNames, IsWord name
  initials : ∀ initial ∈ t.initials, IsWord initial.1
  resolutions : ∀ s ∈ t.resolutions, Quiet s.rust
  forgets : ∀ s ∈ t.forgets, Quiet s.rust
  labels : ∀ argument ∈ t.template, IsWord argument.1
  values : ∀ v ∈ t.values, Quiet v.rust
  arms : ∀ arm ∈ t.arms, Quiet arm.2.rust
  entries : ∀ e ∈ t.entries, Quiet e.rust
  message : IsWord t.message
  exports : ∀ e ∈ t.exports, IsWord e.field

theorem quiet_fieldType (ty : FieldType) : Quiet ty.rust := by
  rcases ty with (_ | _ | _ | _ | _) | _ <;> decide

theorem quiet_initial (initial : Initial) : Quiet initial.rust := by
  rcases initial with (_ | _ | _ | _ | _) | _ <;> decide

theorem quiet_placeholders (display : Display) : Quiet display.placeholders := by
  cases display <;> decide

namespace DecoderTree

variable {t : DecoderTree}

theorem quiet_structLines (h : t.WellSpelled) : ∀ line ∈ t.structLines, Quiet line := by
  have hfields : ∀ field ∈ t.fields,
      Quiet ("    pub " ++ field.1 ++ ": " ++ field.2.rust ++ ",") := by
    intro field hfield
    have hname : Quiet ("    pub " ++ field.1 ++ ": ") :=
      .append (.append (quiet_literal rfl) (h.fields field hfield).quiet) (quiet_literal rfl)
    exact .append (.append hname (quiet_fieldType field.2)) (quiet_literal rfl)
  simp only [structLines, List.forall_mem_append, List.forall_mem_cons, List.forall_mem_map]
  refine ⟨⟨⟨quiet_literal rfl, ?_, quiet_literal rfl, ?_, by simp⟩, hfields⟩, by decide⟩
  · exact .append (.append (quiet_literal rfl) h.event.quiet) (quiet_literal rfl)
  · exact .append (.append (quiet_literal rfl) h.typeName.quiet) (quiet_literal rfl)

theorem quiet_binder (used : Bool) {name : String} (h : Quiet name) : Quiet (binder used name) := by
  unfold binder
  split
  · exact h
  · exact .append (quiet_literal rfl) h

set_option maxRecDepth 1000 in
theorem quiet_decodeLines (h : t.WellSpelled) : ∀ line ∈ t.decodeLines, Quiet line := by
  have hargNames : Quiet (", ".intercalate (t.argNames.map Text.Quoted.quote)) := by
    refine quiet_intercalate (quiet_literal rfl) ?_
    rw [List.forall_mem_map]
    exact fun name hname => (h.argNames name hname).quiet.quote
  have hevent : Quiet (if t.usesHeader then "mut event" else "event") := by
    split <;> exact quiet_literal rfl
  have hblank : ∀ line ∈ (if t.usesHeader then [""] else []), Quiet line := by
    split <;> decide
  have hinitials : ∀ initial ∈ t.initials,
      Quiet ("            " ++ initial.1 ++ ": " ++ initial.2.rust ++ ",") := by
    intro initial hinitial
    have hname : Quiet ("            " ++ initial.1 ++ ": ") :=
      .append (.append (quiet_literal rfl) (h.initials initial hinitial).quiet) (quiet_literal rfl)
    exact .append (.append hname (quiet_initial initial.2)) (quiet_literal rfl)
  have hresolutions : ∀ s ∈ t.resolutions, Quiet ("        " ++ s.rust) :=
    fun s hs => .append (quiet_literal rfl) (h.resolutions s hs)
  have hforgets : ∀ s ∈ t.forgets, Quiet ("        " ++ s.rust) :=
    fun s hs => .append (quiet_literal rfl) (h.forgets s hs)
  simp only [decodeLines, List.forall_mem_append, List.forall_mem_cons, List.forall_mem_map]
  refine ⟨⟨⟨⟨⟨⟨⟨quiet_literal rfl, ?_, ?_, ?_, quiet_literal rfl, ?_, quiet_literal rfl,
    quiet_literal rfl, ?_, quiet_literal rfl, ?_, quiet_literal rfl, quiet_literal rfl,
    quiet_literal rfl, ?_, by simp⟩, hinitials⟩, by decide⟩, hblank⟩, hresolutions⟩, hforgets⟩,
    by decide⟩
  · exact .append (.append (quiet_literal rfl) h.typeName.quiet) (quiet_literal rfl)
  · exact .append (.append (quiet_literal rfl) h.event.quiet.quote) (quiet_literal rfl)
  · exact .append (.append (quiet_literal rfl) hargNames) (quiet_literal rfl)
  · exact .append (.append (quiet_literal rfl) (quiet_repr _)) (quiet_literal rfl)
  · exact .append (.append (quiet_literal rfl) (quiet_binder _ (quiet_literal rfl)))
      (quiet_literal rfl)
  · exact .append (.append (quiet_literal rfl) (quiet_binder _ (quiet_literal rfl)))
      (quiet_literal rfl)
  · exact .append (.append (quiet_literal rfl) hevent) (quiet_literal rfl)

theorem quiet_templateText {template : List (String × Display)}
    (h : ∀ argument ∈ template, IsWord argument.1) : Quiet (templateText template) := by
  refine quiet_join ?_
  rw [List.forall_mem_map]
  rintro ⟨label, display⟩ hargument
  exact .append (.append (.append (h _ hargument).quiet (quiet_literal rfl))
    (quiet_placeholders display)) (quiet_literal rfl)

theorem quiet_renderLines (h : t.WellSpelled) : ∀ line ∈ t.renderLines, Quiet line := by
  have hvalues : ∀ v ∈ t.values, Quiet ("            " ++ v.rust ++ ",") :=
    fun v hv => .append (.append (quiet_literal rfl) (h.values v hv)) (quiet_literal rfl)
  simp only [renderLines, List.forall_mem_append, List.forall_mem_cons, List.forall_mem_map]
  refine ⟨⟨⟨?_, quiet_literal rfl, ?_, by simp⟩, hvalues⟩, by decide⟩
  · exact .append (.append (quiet_literal rfl) (quiet_binder _ (quiet_literal rfl)))
      (quiet_literal rfl)
  · exact .append (.append (quiet_literal rfl) (quiet_templateText h.labels).quote)
      (quiet_literal rfl)

theorem quiet_argLines (h : t.WellSpelled) : ∀ line ∈ t.argLines, Quiet line := by
  have harms : ∀ arm ∈ t.arms, Quiet ("            " ++ toString arm.1 ++ " => Ok(" ++
      arm.2.rust ++ ".to_string()),") := by
    intro arm harm
    have hposition : Quiet ("            " ++ toString arm.1 ++ " => Ok(") :=
      .append (.append (quiet_literal rfl) (quiet_repr _)) (quiet_literal rfl)
    exact .append (.append hposition (h.arms arm harm)) (quiet_literal rfl)
  simp only [argLines, List.forall_mem_append, List.forall_mem_cons, List.forall_mem_map]
  refine ⟨⟨⟨?_, quiet_literal rfl, by simp⟩, harms⟩, by decide⟩
  exact .append (.append (quiet_literal rfl) (quiet_binder _ (quiet_literal rfl)))
    (quiet_literal rfl)

theorem quiet_argsLines (h : t.WellSpelled) : ∀ line ∈ t.argsLines, Quiet line := by
  have hentries : ∀ e ∈ t.entries, Quiet ("            " ++ e.rust) :=
    fun e he => .append (quiet_literal rfl) (h.entries e he)
  simp only [argsLines, List.forall_mem_append, List.forall_mem_cons, List.forall_mem_map]
  refine ⟨⟨⟨?_, quiet_literal rfl, by simp⟩, hentries⟩, by decide⟩
  exact .append (.append (quiet_literal rfl) (quiet_binder _ (quiet_literal rfl)))
    (quiet_literal rfl)

/-- The name of a variant, and what follows it up to the fields. -/
def variantText (t : DecoderTree) : String :=
  t.typeName ++ "(" ++ t.message ++ " \x7b"

/-- The fields that the message of an event is constructed with. -/
def assignments (t : DecoderTree) : List Assignment :=
  t.exports.map fun e => ⟨e.field, e.field⟩

theorem constructions_mark (rest : String) :
    constructions.header? ("            event: Some(metric::Event::" ++ rest) = some rest := by
  have hfirst : firstAt (after? variantMark)
      ("            event: Some(metric::Event::" ++ rest).toList =
        some ("            event: Some(".toList, rest.toList) := by
    rw [String.toList_append]
    rfl
  show (firstAt (after? variantMark) _).map _ = some rest
  rw [hfirst, Option.map_some, String.ofList_toList]

theorem assignment_read? {e : Export} (h : IsWord e.field) :
    Assignment.read? ("                " ++ e.rust) = some ⟨e.field, e.field⟩ := by
  have hline : ∃ method, Template.Ends method "()," ∧ "                " ++ e.rust =
      Template.line ⟨"                ", [": self.", ".", "(),"]⟩ [e.field, e.field, method] := by
    cases e with
    | copied field =>
      exact ⟨"to_vec", ⟨'(', _, rfl, by decide⟩,
        by simp [Export.rust, Export.field, Template.line, String.append_assoc]⟩
    | converted field =>
      exact ⟨"into", ⟨'(', _, rfl, by decide⟩,
        by simp [Export.rust, Export.field, Template.line, String.append_assoc]⟩
  obtain ⟨method, hmethod, hline⟩ := hline
  have hends : List.Forall₂ Template.Ends [e.field, e.field, method] [": self.", ".", "(),"] :=
    .cons (h.ends (by decide)) (.cons (h.ends (by decide)) (.cons hmethod .nil))
  rw [Assignment.read?, hline, Template.read?_line _ hends]

theorem quiet_export {e : Export} (h : IsWord e.field) : Quiet e.rust := by
  have hfield := h.quiet
  cases e with
  | copied field =>
    exact .append (.append (.append hfield (quiet_literal rfl)) hfield) (quiet_literal rfl)
  | converted field =>
    exact .append (.append (.append hfield (quiet_literal rfl)) hfield) (quiet_literal rfl)

theorem isEntry_exports (h : t.WellSpelled) :
    List.Forall₂ constructions.IsEntry (t.exports.map fun e => "                " ++ e.rust)
      t.assignments := by
  refine forall₂_map ?_
  intro e he
  have hword := h.exports e he
  refine ⟨constructions_of_quiet (.append (quiet_literal rfl) (quiet_export hword)), ?_,
    assignment_read? hword⟩
  have hbrace : "                " ++ e.rust ≠ "            \x7d))," :=
    Template.append_ne_of_clash (by decide) _
  simp [constructions, hbrace]

/-- The lines before the one that names the variant of an event. -/
def linesBefore (t : DecoderTree) : List String :=
  t.structLines ++ t.decodeLines ++ ["", "impl TraceEvent for " ++ t.typeName ++ " \x7b"] ++
    t.renderLines ++ t.argLines ++ t.argsLines ++
    ["    fn metric(&self) -> Option<Metric> \x7b", "        Some(Metric \x7b"]

/-- The lines that construct the message of an event. -/
def constructionLines (t : DecoderTree) : List String :=
  ("            event: Some(metric::Event::" ++ t.variantText) ::
    t.exports.map (fun e => "                " ++ e.rust) ++ ["            \x7d)),"]

/-- The lines after those. -/
def linesAfter : List String :=
  ["            ..Default::default()", "        \x7d)", "    \x7d", "\x7d"]

theorem lines_eq (t : DecoderTree) :
    t.lines = t.linesBefore ++ (t.constructionLines ++ linesAfter) := by
  have hvariant : "            event: Some(metric::Event::" ++ t.typeName ++ "(" ++ t.message ++
      " \x7b" = "            event: Some(metric::Event::" ++ t.variantText := by
    simp only [variantText, String.append_assoc]
  simp only [lines, traceLines, metricLines, hvariant, linesBefore, constructionLines, linesAfter,
    List.append_assoc, List.cons_append, List.nil_append]

theorem quiet_linesBefore (h : t.WellSpelled) : ∀ line ∈ t.linesBefore, Quiet line := by
  have himpl : Quiet ("impl TraceEvent for " ++ t.typeName ++ " \x7b") :=
    .append (.append (quiet_literal rfl) h.typeName.quiet) (quiet_literal rfl)
  simp only [linesBefore, List.forall_mem_append, List.forall_mem_cons]
  exact ⟨⟨⟨⟨⟨⟨quiet_structLines h, quiet_decodeLines h⟩, quiet_literal rfl, himpl, by simp⟩,
    quiet_renderLines h⟩, quiet_argLines h⟩, quiet_argsLines h⟩, quiet_literal rfl,
    quiet_literal rfl, by simp⟩

/-- **A decoder constructs one message**, of the variant with its name. -/
theorem reads_lines (h : t.WellSpelled) :
    constructions.Reads t.lines [⟨t.variantText, t.assignments⟩] := by
  have hbefore : constructions.Reads t.linesBefore [] := Grammar.reads_nil fun line hline =>
    constructions_of_quiet (quiet_linesBefore h line hline)
  have hmessage : constructions.Reads t.constructionLines [⟨t.variantText, t.assignments⟩] :=
    Grammar.reads_block (constructions_mark t.variantText) (isEntry_exports h) (by decide)
      (by decide)
  have hafter : constructions.Reads linesAfter [] := Grammar.reads_nil (by decide)
  rw [lines_eq]
  exact hbefore.append (hmessage.append hafter)

theorem newlines_lines (h : t.WellSpelled) : ∀ line ∈ t.lines, newlines line = 0 := by
  have hvariant : newlines ("            event: Some(metric::Event::" ++ t.variantText) = 0 := by
    have hmark : newlines "            event: Some(metric::Event::" = 0 := by decide
    have hopening : newlines "(" = 0 := by decide
    have hbrace : newlines " \x7b" = 0 := by decide
    simp only [variantText, newlines_append, hmark, hopening, hbrace, h.typeName.newlines,
      h.message.newlines]
  have hexports : ∀ e ∈ t.exports, newlines ("                " ++ e.rust) = 0 := fun e he =>
    Quiet.newlines (.append (quiet_literal rfl) (quiet_export (h.exports e he)))
  simp only [lines_eq, constructionLines, List.forall_mem_append, List.forall_mem_cons,
    List.forall_mem_map]
  exact ⟨fun line hline => (quiet_linesBefore h line hline).newlines,
    ⟨⟨hvariant, hexports⟩, by decide⟩, by decide⟩

/-! ## Decoders of syscalls -/

theorem quiet_shown {policy : BufferPolicy} {p : Param DecoderType} (h : IsWord p.name) :
    Quiet (shown policy p).rust := by
  have hfield := (isWord_rustField h).quiet
  unfold shown
  split
  · cases policy with
    | nulTerminated => exact .append (.append (quiet_literal rfl) hfield) (quiet_literal rfl)
    | returnBounded => exact .append (.append (quiet_literal rfl) hfield) (quiet_literal rfl)
  · exact .append (quiet_literal rfl) hfield

set_option maxRecDepth 1000 in
theorem quiet_resolve {path field : String} (hpath : Quiet path) (hfield : Quiet field) :
    Quiet (Statement.resolve path field).rust := by
  have hcall : Quiet " = ctx.resolve_fd_path(header.pid as u32, event." :=
    quiet_literal rfl
  have hfront : Quiet ("event." ++ path ++ " = ctx.resolve_fd_path(header.pid as u32, event.") :=
    .append (.append (quiet_literal rfl) hpath) hcall
  exact .append (.append hfront hfield) (quiet_literal rfl)

theorem quiet_paramEntry {policy : BufferPolicy} {p : Param DecoderType} (h : IsWord p.name) :
    Quiet (paramEntry policy p).rust := by
  have hname : Quiet ("(" ++ Text.Quoted.quote p.name) := .append (quiet_literal rfl) h.quiet.quote
  have hshown : Quiet (shown policy p).rust := quiet_shown h
  have hformat (display : Display) :
      Quiet ("(" ++ Text.Quoted.quote p.name ++ ", format!(\"" ++ display.placeholders ++ "\", " ++
        (shown policy p).rust) :=
    .append (.append (.append (.append hname (quiet_literal rfl)) (quiet_placeholders display))
      (quiet_literal rfl)) hshown
  unfold paramEntry
  cases display p with
  | quoted => exact .append (hformat _) (quiet_literal rfl)
  | withPath =>
    exact .append (.append (.append (hformat _) (quiet_literal rfl)) (isWord_pathField h).quiet)
      (quiet_literal rfl)
  | plain => exact .append (.append (.append hname (quiet_literal rfl)) hshown) (quiet_literal rfl)

/-- A decoded syscall with words for all of its names. -/
structure WellNamed (d : Syscall DecoderType) : Prop where
  name : IsWord d.name
  typeName : IsWord d.typeName
  params : ∀ p ∈ d.params, IsWord p.name ∧ IsWord p.label
  /-- Its label does not complete the mark where it follows two colons. -/
  label : d.label.toList.foldl seen 2 = 0

/-- What is made of a parameter is one thing, and another for its path if it has one. -/
theorem forall_mem_withPath {α : Type} {P : α → Prop} {needsPath : Bool} {item path : α}
    (hitem : P item) (hpath : P path) :
    ∀ a ∈ item :: (if needsPath then [path] else []), P a := by
  intro a ha
  rcases List.mem_cons.mp ha with rfl | ha
  · exact hitem
  · split at ha
    · rwa [List.mem_singleton.mp ha]
    · cases ha

/-- What is filled at first is a parameter, or the path of one. -/
theorem exists_param_initial {d : Syscall DecoderType} {r : Syscall RecordType} {message : String}
    {initial : String × Initial} (h : initial ∈ (ofSyscall d r message).initials) :
    ∃ p ∈ d.params, initial.1 = rustField p.name ∨ initial.1 = pathField p.name := by
  obtain ⟨initials, hinitials, hinitial⟩ := List.mem_flatten.mp h
  obtain ⟨i, hi, rfl⟩ := List.mem_iff_getElem.mp hinitials
  rw [List.getElem_zipWith] at hinitial
  have hlength : i < d.params.length := by
    rw [List.length_zipWith] at hi
    omega
  refine ⟨d.params[i], List.getElem_mem hlength, ?_⟩
  exact forall_mem_withPath (P := fun initial : String × Initial =>
    initial.1 = rustField d.params[i].name ∨ initial.1 = pathField d.params[i].name)
    (.inl rfl) (.inr rfl) initial hinitial

/-- Nothing but the descriptor of a close is dropped. -/
theorem eq_forget_of_mem {d : Syscall DecoderType} {r : Syscall RecordType} {message : String}
    {s : Statement} (h : s ∈ (ofSyscall d r message).forgets) : s = .forget "fd" := by
  have hforgets : s ∈ if forgetsDescriptor d then [Statement.forget "fd"] else [] := h
  split at hforgets
  · exact List.mem_singleton.mp hforgets
  · cases hforgets

/-- **The decoder of a syscall is well spelled** if the syscall has words for names. -/
theorem wellSpelled_ofSyscall {d : Syscall DecoderType} (h : WellNamed d) {message : String}
    (hmessage : IsWord message) (r : Syscall RecordType) :
    (ofSyscall d r message).WellSpelled where
  typeName := h.typeName
  event := h.name
  message := hmessage
  fields := by
    intro field hfield
    obtain ⟨p, hp, hfield⟩ := List.mem_flatMap.mp hfield
    have hword := (h.params p hp).1
    refine forall_mem_withPath (P := fun field => IsWord field.1) ?_ ?_ field hfield
    · exact isWord_rustField hword
    · exact isWord_pathField hword
  argNames := by
    intro name hname
    obtain ⟨p, hp, rfl⟩ := List.mem_map.mp hname
    exact (h.params p hp).1
  initials := by
    intro initial hinitial
    obtain ⟨p, hp, hname | hname⟩ := exists_param_initial hinitial
    · exact hname ▸ isWord_rustField (h.params p hp).1
    · exact hname ▸ isWord_pathField (h.params p hp).1
  resolutions := by
    intro s hs
    obtain ⟨p, hp, rfl⟩ := List.mem_map.mp hs
    have hword := (h.params p (List.mem_filter.mp hp).1).1
    exact quiet_resolve (isWord_pathField hword).quiet (isWord_rustField hword).quiet
  forgets := by
    intro s hs
    rw [eq_forget_of_mem hs]
    exact .append (.append (quiet_literal rfl) (quiet_literal rfl)) (quiet_literal rfl)
  labels := by
    intro argument hargument
    obtain ⟨p, hp, rfl⟩ := List.mem_map.mp hargument
    exact (h.params p hp).2
  values := by
    intro v hv
    obtain ⟨p, hp, hv⟩ := List.mem_flatMap.mp hv
    have hword := (h.params p hp).1
    refine forall_mem_withPath (P := fun v => Quiet v.rust) ?_ ?_ v hv
    · exact quiet_shown hword
    · exact .append (quiet_literal rfl) (isWord_pathField hword).quiet
  arms := by
    intro arm harm
    obtain ⟨p, hp, rfl⟩ := List.mem_map.mp harm
    exact quiet_shown (h.params p hp).1
  entries := by
    intro e he
    obtain ⟨p, hp, rfl⟩ := List.mem_map.mp he
    exact quiet_paramEntry (h.params p hp).1
  exports := by
    intro e he
    obtain ⟨p, hp, rfl⟩ := List.mem_map.mp he
    rw [paramExport_field]
    exact isWord_rustField (h.params p hp).1

end DecoderTree

/-! ## Decoder sources -/

section Dispatch

variable {syscalls : List (Syscall DecoderType)}

theorem quiet_variant {s : Syscall DecoderType} (h : DecoderTree.WellNamed s) {front : String}
    (hfront : front.toList.foldl seen 0 = 2) : Quiet (front ++ s.label) := by
  rw [Quiet, String.toList_append, List.foldl_append, hfront, h.label]

theorem quiet_delegateLines (h : ∀ s ∈ syscalls, DecoderTree.WellNamed s) {call : String}
    (hcall : Quiet call) : ∀ line ∈ delegateLines syscalls call, Quiet line := by
  have harms : ∀ s ∈ syscalls,
      Quiet ("            SyscallEvent::" ++ s.label ++ "(event) => event." ++ call ++ ",") :=
    fun s hs => .append (.append (.append (quiet_variant (h s hs) (foldl_literal rfl))
      (quiet_literal rfl)) hcall) (quiet_literal rfl)
  simp only [delegateLines, List.forall_mem_append, List.forall_mem_cons, List.forall_mem_map]
  exact ⟨⟨⟨quiet_literal rfl, by simp⟩, harms⟩, by decide⟩

theorem quiet_syscallEventLines (h : ∀ s ∈ syscalls, DecoderTree.WellNamed s) :
    ∀ line ∈ syscallEventLines syscalls, Quiet line := by
  have hvariants : ∀ s ∈ syscalls, Quiet ("    " ++ s.label ++ "(" ++ s.typeName ++ "),") :=
    fun s hs => .append (.append (.append (.append (quiet_literal rfl) (isWord_camelCase _).quiet)
      (quiet_literal rfl)) (h s hs).typeName.quiet) (quiet_literal rfl)
  have hnames : ∀ s ∈ syscalls,
      Quiet ("            SyscallEvent::" ++ s.label ++ "(_) => " ++ s.typeName ++ "::NAME,") :=
    fun s hs => .append (.append (.append (quiet_variant (h s hs) (foldl_literal rfl))
      (quiet_literal rfl)) (h s hs).typeName.quiet) (quiet_literal rfl)
  simp only [syscallEventLines, List.forall_mem_append, List.forall_mem_map]
  exact ⟨⟨⟨⟨⟨⟨⟨⟨⟨⟨⟨⟨by decide, hvariants⟩, by decide⟩, hnames⟩, by decide +kernel⟩,
    quiet_delegateLines h (quiet_literal rfl)⟩, by decide +kernel⟩,
    quiet_delegateLines h (quiet_literal rfl)⟩, by decide +kernel⟩,
    quiet_delegateLines h (quiet_literal rfl)⟩, by decide +kernel⟩,
    quiet_delegateLines h (quiet_literal rfl)⟩, by decide⟩

set_option maxRecDepth 1000 in
theorem quiet_dispatchLines (h : ∀ s ∈ syscalls, DecoderTree.WellNamed s) :
    ∀ line ∈ dispatchLines syscalls, Quiet line := by
  have harms : ∀ s ∈ syscalls, Quiet ("        " ++ Text.Quoted.quote s.name ++ " => " ++
      s.typeName ++ "::decode(header, payload, ctx).map(SyscallEvent::" ++ s.label ++ "),") := by
    intro s hs
    have hname : Quiet ("        " ++ Text.Quoted.quote s.name ++ " => " ++ s.typeName) :=
      .append (.append (.append (quiet_literal rfl) (h s hs).name.quiet.quote) (quiet_literal rfl))
        (h s hs).typeName.quiet
    have hcall : "::decode(header, payload, ctx).map(SyscallEvent::".toList.foldl seen 0 = 2 :=
      foldl_literal rfl
    have hfront : ("        " ++ Text.Quoted.quote s.name ++ " => " ++ s.typeName ++
        "::decode(header, payload, ctx).map(SyscallEvent::").toList.foldl seen 0 = 2 := by
      rw [String.toList_append, List.foldl_append, hname]
      exact hcall
    exact .append (quiet_variant (h s hs) hfront) (quiet_literal rfl)
  simp only [dispatchLines, List.forall_mem_append, List.forall_mem_map]
  refine ⟨⟨?_, harms⟩, by decide⟩
  simp only [List.forall_mem_cons]
  and_intros
  iterate 9 exact quiet_literal rfl
  simp

end Dispatch

/-- **What a decoder source constructs**: one message per decoder, and nothing else. -/
theorem constructions_decoderLines {schemas : Schemas}
    (htrees : ∀ t ∈ DecoderTree.ofSyscalls schemas.decoder schemas.record schemas.wire,
      t.WellSpelled)
    (hsyscalls : ∀ s ∈ schemas.decoder, DecoderTree.WellNamed s) :
    constructions.read? (unlines (decoderLines schemas)) =
      some ((DecoderTree.ofSyscalls schemas.decoder schemas.record schemas.wire).map fun t =>
        ⟨t.variantText, t.assignments⟩) := by
  have hafter : ∀ line ∈ syscallEventLines schemas.decoder ++ dispatchLines schemas.decoder,
      Quiet line :=
    List.forall_mem_append.mpr ⟨quiet_syscallEventLines hsyscalls, quiet_dispatchLines hsyscalls⟩
  have hlines : ∀ line ∈ decoderLines schemas, newlines line = 0 := by
    have hbanner : ∀ line ∈ banner, newlines line = 0 := by decide
    have hdecoders : ∀ line ∈ (DecoderTree.ofSyscalls schemas.decoder schemas.record
        schemas.wire).flatMap DecoderTree.lines, newlines line = 0 := by
      intro line hline
      obtain ⟨t, ht, hline⟩ := List.mem_flatMap.mp hline
      exact DecoderTree.newlines_lines (htrees t ht) line hline
    rw [decoderLines, List.append_assoc, List.forall_mem_append, List.forall_mem_append]
    exact ⟨⟨hbanner, hdecoders⟩, fun line hline => (hafter line hline).newlines⟩
  have hreads : constructions.Reads (decoderLines schemas)
      ([] ++ (DecoderTree.ofSyscalls schemas.decoder schemas.record schemas.wire).map
        (fun t => ⟨t.variantText, t.assignments⟩) ++ []) := by
    have hbanner : constructions.Reads banner [] := Grammar.reads_nil (by decide)
    have hdecoders := Grammar.Reads.flatMap fun t ht => DecoderTree.reads_lines (htrees t ht)
    have hrest : constructions.Reads _ [] := Grammar.reads_nil fun line hline =>
      constructions_of_quiet (hafter line hline)
    rw [decoderLines, List.append_assoc]
    exact (hbanner.append hdecoders).append hrest
  rw [List.nil_append, List.append_nil] at hreads
  exact hreads.read? hlines (by decide)

end Tracepoint.Artifact
