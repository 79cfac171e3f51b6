import Mathlib
import Tracepoint.Proofs.Trace.Writer
import Tracepoint.Trace.Formatter

/-!
# What a writer is given of formatted lines

However a writer behaves, what it accepts of some lines is a front part of their texts, and all of
them exactly if no step fails.

* `Written.Covers` — what was accepted of some bytes, and whether that was all;
* `Writer.covers_writeAll`, `Writer.covers_writePieces` — every attempt covers what it is made for;
* `Writer.accepted_runSteps`, `Writer.error?_runSteps` — steps accept and fail as all of their
  pieces in a row;
* `formatting_contract` — the texts of lines, through any writer.
-/

set_option autoImplicit false

namespace Tracepoint.Trace

variable {σ : Type}

/-! ## Front parts -/

/-- A front part of the given bytes was accepted: all of them, or the attempt failed. -/
structure Written.Covers (written : Written σ) (bytes : Bytes) : Prop where
  accepted_prefix : written.accepted <+: bytes
  whole_iff : written.accepted = bytes ↔ written.error? = none

namespace Written.Covers

variable {written more : Written σ} {bytes rest : Bytes} {e : String}

/-- A failed attempt falls short, also of more than was attempted. -/
theorem fails (h : written.Covers bytes) (he : written.error? = some e) :
    written.Covers (bytes ++ rest) := by
  refine ⟨h.accepted_prefix.trans (List.prefix_append bytes rest), ?_⟩
  constructor
  · intro heq
    have hall : bytes ++ rest <+: bytes := heq ▸ h.accepted_prefix
    have hrest : rest = [] := by
      have hlength := hall.length_le
      rw [List.length_append] at hlength
      exact List.eq_nil_of_length_eq_zero (by omega)
    rw [hrest, List.append_nil] at heq
    exact h.whole_iff.mp heq
  · intro hnone
    rw [he] at hnone
    cases hnone

/-- What follows an attempt that did not fail is covered by what was accepted after it. -/
theorem continued (h : written.Covers bytes) (hnone : written.error? = none)
    (hmore : more.Covers rest) :
    ({ more with accepted := written.accepted ++ more.accepted } : Written σ).Covers
      (bytes ++ rest) := by
  have hall : written.accepted = bytes := h.whole_iff.mpr hnone
  rw [hall]
  refine ⟨(List.prefix_append_right_inj bytes).mpr hmore.accepted_prefix, ?_⟩
  rw [← hmore.whole_iff]
  exact List.append_right_inj bytes

end Written.Covers

namespace Writer

variable (w : Writer σ)

/-- **One piece.**  The recursion is that of the writer: a failure leaves at least one byte, and
what is left after a success is shorter. -/
theorem covers_writeAll (state : σ) (bytes : Bytes) : (w.writeAll state bytes).Covers bytes := by
  match bytes with
  | [] => exact ⟨by simp [writeAll], by simp [writeAll]⟩
  | b :: bs =>
    have hfailed (e : String) (next : σ) :
        (Written.mk [] (some e) next).Covers (b :: bs) := ⟨List.nil_prefix, by simp⟩
    rw [writeAll]
    rcases w.offer state (b :: bs) with ⟨_ | _ | n, next⟩
    · exact hfailed _ next
    · exact hfailed writeZero next
    · have ih := covers_writeAll next (bs.drop n)
      have htaken : (Written.mk (b :: bs.take n) none next).Covers (b :: bs.take n) :=
        ⟨List.prefix_rfl, by simp⟩
      have hall := htaken.continued rfl ih
      rwa [List.cons_append, List.cons_append, List.take_append_drop] at hall
termination_by bytes.length

/-- **Many pieces**: the first that fails leaves the rest out. -/
theorem covers_writePieces (state : σ) (pieces : List Bytes) :
    (w.writePieces state pieces).Covers pieces.flatten := by
  induction pieces generalizing state with
  | nil => exact ⟨List.prefix_rfl, by simp [writePieces]⟩
  | cons piece pieces ih =>
    have hpiece := w.covers_writeAll state piece
    rw [List.flatten_cons, writePieces]
    cases he : (w.writeAll state piece).error? with
    | some e => exact hpiece.fails he
    | none => exact hpiece.continued he (ih _)

/-- Nothing is written after a piece that fails. -/
theorem writePieces_append_of_some {state : σ} {first : List Bytes} {e : String}
    (he : (w.writePieces state first).error? = some e) (rest : List Bytes) :
    w.writePieces state (first ++ rest) = w.writePieces state first := by
  induction first generalizing state with
  | nil => cases he
  | cons piece first ih =>
    rw [List.cons_append, writePieces, writePieces]
    rw [writePieces] at he
    cases hpiece : (w.writeAll state piece).error? with
    | some _ => rfl
    | none =>
      rw [hpiece] at he
      simp only [ih he]

/-- Pieces that do not fail are followed by the rest. -/
theorem writePieces_append_of_none {state : σ} {first : List Bytes}
    (hnone : (w.writePieces state first).error? = none) (rest : List Bytes) :
    w.writePieces state (first ++ rest) =
      { w.writePieces (w.writePieces state first).state rest with
        accepted := (w.writePieces state first).accepted ++
          (w.writePieces (w.writePieces state first).state rest).accepted } := by
  induction first generalizing state with
  | nil => rfl
  | cons piece first ih =>
    rw [List.cons_append, writePieces, writePieces]
    rw [writePieces] at hnone
    cases hpiece : (w.writeAll state piece).error? with
    | some _ =>
      rw [hpiece] at hnone
      exact absurd (hpiece.symm.trans hnone) (Option.some_ne_none _)
    | none =>
      rw [hpiece] at hnone
      simp only [ih hnone, List.append_assoc]

/-! ## Steps -/

/-- Steps accept what their pieces do, written in a row. -/
theorem accepted_runSteps (state : σ) (steps : List (List Bytes)) :
    (w.runSteps state steps).flatMap Written.accepted =
      (w.writePieces state steps.flatten).accepted := by
  induction steps generalizing state with
  | nil => rfl
  | cons step steps ih =>
    rw [List.flatten_cons, runSteps]
    cases he : (w.writePieces state step).error? with
    | some e => simp [w.writePieces_append_of_some he]
    | none => simp [w.writePieces_append_of_none he, ih]

/-- No step fails exactly if none of the pieces does. -/
theorem error?_runSteps (state : σ) (steps : List (List Bytes)) :
    List.Forall₂ (fun _ written => written.error? = none) steps (w.runSteps state steps) ↔
      (w.writePieces state steps.flatten).error? = none := by
  induction steps generalizing state with
  | nil => simp [runSteps, writePieces]
  | cons step steps ih =>
    rw [List.flatten_cons, runSteps]
    cases he : (w.writePieces state step).error? with
    | some e => simp [w.writePieces_append_of_some he, he]
    | none => simp [w.writePieces_append_of_none he, he, ih]

end Writer

/-! ## Lines -/

namespace Line

/-- The first argument is the one before which none was pushed. -/
theorem flatten_pushes (style : Style) (args : List Bytes) :
    (pushes style 0 args).flatten = arguments style args := by
  have hlater (pushed : Nat) (args : List Bytes) :
      (pushes style (pushed + 1) args).flatten = args.flatMap (argument style false) := by
    induction args generalizing pushed with
    | nil => rfl
    | cons arg args ih =>
      rw [pushes, List.flatten_cons, ih, List.flatMap_cons]
      rfl
  cases args with
  | nil => rfl
  | cons arg args =>
    rw [pushes, List.flatten_cons, hlater, arguments]
    rfl

/-- The steps of a line write its pieces. -/
theorem flatten_steps (style : Style) (line : Line) :
    (line.steps style).flatten = line.pieces style := by
  simp [steps, pieces, flatten_pushes]

/-- The steps of lines write the texts of the lines. -/
theorem flatten_pieces_lines (style : Style) (lines : List Line) :
    (lines.flatMap (pieces style)).flatten = lines.flatMap (text style) := by
  induction lines with
  | nil => rfl
  | cons line lines ih =>
    rw [List.flatMap_cons, List.flatten_append, flatten_pieces, ih, List.flatMap_cons]

theorem flatten_steps_lines (style : Style) (lines : List Line) :
    (lines.flatMap (steps style)).flatten = lines.flatMap (pieces style) := by
  induction lines with
  | nil => rfl
  | cons line lines ih =>
    rw [List.flatMap_cons, List.flatten_append, flatten_steps, ih, List.flatMap_cons]

end Line

/-- What lines come to through a writer that starts in the given state. -/
structure FormattingContract (w : Writer σ) (style : Style) (state : σ) (lines : List Line) :
    Prop where
  /-- What is accepted, step by step, is a front part of the texts. -/
  accepted_prefix : (w.format style state lines).flatMap Written.accepted <+:
    lines.flatMap (Line.text style)
  /-- It is all of them exactly if each step is carried out and none fails. -/
  whole_iff : (w.format style state lines).flatMap Written.accepted =
      lines.flatMap (Line.text style) ↔
    List.Forall₂ (fun _ written => written.error? = none) (lines.flatMap (Line.steps style))
      (w.format style state lines)
  /-- Written at one go, the lines come to the same. -/
  at_once : (w.writeLines style state lines).accepted =
      (w.format style state lines).flatMap Written.accepted ∧
    ((w.writeLines style state lines).error? = none ↔
      List.Forall₂ (fun _ written => written.error? = none) (lines.flatMap (Line.steps style))
        (w.format style state lines))

/-- **The formatter writes the texts of lines**, in either style and through any writer: what is
accepted is a front part of them, and all of them exactly if every step succeeds. -/
theorem formatting_contract (w : Writer σ) (style : Style) (state : σ) (lines : List Line) :
    FormattingContract w style state lines := by
  have hcovers := w.covers_writePieces state (lines.flatMap (Line.pieces style))
  rw [Line.flatten_pieces_lines] at hcovers
  have haccepted := w.accepted_runSteps state (lines.flatMap (Line.steps style))
  have herror := w.error?_runSteps state (lines.flatMap (Line.steps style))
  rw [Line.flatten_steps_lines] at haccepted herror
  refine ⟨?_, ?_, haccepted.symm, herror.symm⟩
  · rw [Writer.format, haccepted]
    exact hcovers.accepted_prefix
  · rw [Writer.format, haccepted, herror]
    exact hcovers.whole_iff

end Tracepoint.Trace
