import Mathlib
import Tracepoint.Trace.Writer

/-!
# What a writer gets to see

The pieces of a line spell its text in either style, and a writer that always accepts something is
given all of it, however little it accepts at a time.

* `Line.flatten_pieces` — the pieces of a line are its text, cut up;
* `Writer.writeEvent_accepted` — a writer that keeps accepting ends up with the text of the line.
-/

set_option autoImplicit false

namespace Tracepoint.Trace

/-! ## Pieces spell the text -/

theorem intercalate_cons_eq {α : Type} (separator first : List α) (rest : List (List α)) :
    separator.intercalate (first :: rest) = first ++ rest.flatMap (separator ++ ·) := by
  induction rest generalizing first with
  | nil => simp
  | cons second rest ih =>
    rw [List.intercalate_cons_cons, ih, List.flatMap_cons, List.append_assoc, List.append_assoc]

namespace Line

theorem flatten_argument_oneLine (arg : Bytes) :
    (argument .oneLine false arg).flatten = Text.toBytes ", " ++ arg := by
  have hcomma : Text.toBytes "," ++ Text.toBytes " " = Text.toBytes ", " := by decide
  simp [argument, ← hcomma]

theorem flatten_argument_multiLine (arg : Bytes) :
    (argument .multiLine false arg).flatten =
      Text.toBytes "," ++ (Text.toBytes "\n\t    " ++ arg) := by
  have hindent : Text.toBytes "\n\t" ++ Text.toBytes "    " = Text.toBytes "\n\t    " := by decide
  simp [argument, ← hindent]

theorem flatten_arguments_oneLine (args : List Bytes) :
    (arguments .oneLine args).flatten = (Text.toBytes ", ").intercalate args := by
  cases args with
  | nil => rfl
  | cons first rest =>
    have hfirst : (argument .oneLine true first).flatten = first := by simp [argument]
    rw [intercalate_cons_eq, arguments, List.flatten_append, hfirst, List.flatMap,
      List.flatten_flatten, List.map_map, List.flatMap]
    congr 3
    exact funext flatten_argument_oneLine

theorem flatten_arguments_multiLine (args : List Bytes) :
    (arguments .multiLine args).flatten =
      (Text.toBytes ",").intercalate (args.map (Text.toBytes "\n\t    " ++ ·)) := by
  cases args with
  | nil => rfl
  | cons first rest =>
    have hindent : Text.toBytes "\n\t" ++ Text.toBytes "    " = Text.toBytes "\n\t    " := by decide
    have hfirst : (argument .multiLine true first).flatten = Text.toBytes "\n\t    " ++ first := by
      simp [argument, ← hindent]
    rw [List.map_cons, intercalate_cons_eq, arguments, List.flatten_append, hfirst, List.flatMap,
      List.flatten_flatten, List.map_map, List.flatMap, List.map_map]
    congr 3
    exact funext flatten_argument_multiLine

/-- **The pieces of a line are its text**, cut up. -/
theorem flatten_pieces (style : Style) (line : Line) :
    (line.pieces style).flatten = line.text style := by
  have hsuffix : line.suffix?.toList.flatten = line.suffix?.getD [] := by
    cases line.suffix? <;> simp
  cases style with
  | oneLine =>
    simp only [pieces, opening, closing, text, List.flatten_append, flatten_arguments_oneLine,
      hsuffix]
    simp
  | multiLine =>
    have hclose : Text.toBytes "\n\t" ++ Text.toBytes ") = " = Text.toBytes "\n\t) = " := by decide
    simp only [pieces, opening, closing, text, List.flatten_append, flatten_arguments_multiLine,
      hsuffix, ← hclose]
    simp

end Line

/-! ## Writers that keep accepting -/

namespace Writer

variable {σ : Type} {w : Writer σ}

/-- A writer that accepts at least one byte of whatever it is offered. -/
def Accepts (w : Writer σ) : Prop :=
  ∀ state bytes, bytes ≠ [] → ∃ n, (w.offer state bytes).1 = .ok (n + 1)

/-- What is left is offered again until nothing is. -/
theorem writeAll_accepted (h : w.Accepts) (state : σ) (bytes : Bytes) :
    (w.writeAll state bytes).accepted = bytes ∧ (w.writeAll state bytes).error? = none := by
  match bytes with
  | [] => simp [writeAll]
  | b :: bs =>
    obtain ⟨n, hn⟩ := h state (b :: bs) (List.cons_ne_nil _ _)
    have hoffer : w.offer state (b :: bs) = (.ok (n + 1), (w.offer state (b :: bs)).2) :=
      Prod.ext hn rfl
    have ih := writeAll_accepted h (w.offer state (b :: bs)).2 (bs.drop n)
    rw [writeAll, hoffer]
    simp [ih]
termination_by bytes.length

theorem writePieces_accepted (h : w.Accepts) (state : σ) (pieces : List Bytes) :
    (w.writePieces state pieces).accepted = pieces.flatten ∧
      (w.writePieces state pieces).error? = none := by
  induction pieces generalizing state with
  | nil => exact ⟨rfl, rfl⟩
  | cons piece pieces ih =>
    obtain ⟨hpiece, herror⟩ := writeAll_accepted h state piece
    rw [writePieces]
    simp only [herror, hpiece, ih, List.flatten_cons, and_self]

/-- **A writer that keeps accepting ends up with the text of the line.** -/
theorem writeEvent_accepted (h : w.Accepts) (style : Style) (state : σ) (e : DecodedEvent) :
    (w.writeEvent style state e).accepted = (Line.ofEvent e).text style ∧
      (w.writeEvent style state e).error? = none := by
  rw [writeEvent, writeLines, List.flatMap_singleton, ← Line.flatten_pieces]
  exact writePieces_accepted h state _

/-- A writer that accepts all it is offered at once. -/
def whole : Writer Unit :=
  ⟨fun _ bytes => (.ok bytes.length, ())⟩

theorem accepts_whole : whole.Accepts := by
  intro _ bytes hne
  cases bytes with
  | nil => exact absurd rfl hne
  | cons b bs => exact ⟨bs.length, rfl⟩

end Writer

end Tracepoint.Trace
