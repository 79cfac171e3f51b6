import Tracepoint.Trace.Line

/-!
# Writing trace lines

Lines are offered to a writer piece by piece.  A writer may accept less than it is offered, in
which case the rest is offered again; it may fail, or accept nothing, which counts as failure.
Nothing is offered after a failure.
-/

set_option autoImplicit false

namespace Tracepoint.Trace

/-- Something that accepts bytes: how many of those offered, or why none. -/
structure Writer (σ : Type) where
  offer : σ → Bytes → Except String Nat × σ

/-- What became of an attempt to write. -/
structure Written (σ : Type) where
  /-- The bytes that were accepted. -/
  accepted : Bytes
  /-- Why not all of them were. -/
  error? : Option String
  state : σ

namespace Writer

variable {σ : Type}

/-- What is said of a writer that accepts nothing. -/
def writeZero : String := "write zero"

/-- Offers `bytes` until all are accepted.  A writer accepts at most what it is offered. -/
def writeAll (w : Writer σ) (state : σ) : Bytes → Written σ
  | [] => ⟨[], none, state⟩
  | b :: bs =>
    match w.offer state (b :: bs) with
    | (.error e, state) => ⟨[], some e, state⟩
    | (.ok 0, state) => ⟨[], some writeZero, state⟩
    | (.ok (n + 1), state) =>
      let written := writeAll w state (bs.drop n)
      { written with accepted := b :: bs.take n ++ written.accepted }
  termination_by bytes => bytes.length
  decreasing_by simp only [List.length_drop, List.length_cons]; omega

/-- Writes pieces in order, up to the first failure. -/
def writePieces (w : Writer σ) (state : σ) : List Bytes → Written σ
  | [] => ⟨[], none, state⟩
  | piece :: rest =>
    let written := w.writeAll state piece
    match written.error? with
    | some _ => written
    | none =>
      let more := w.writePieces written.state rest
      { more with accepted := written.accepted ++ more.accepted }

/-- Writes lines in order, up to the first failure. -/
def writeLines (w : Writer σ) (style : Style) (state : σ) (lines : List Line) : Written σ :=
  w.writePieces state (lines.flatMap (Line.pieces style))

/-- Writes the line of a decoded event. -/
def writeEvent (w : Writer σ) (style : Style) (state : σ) (e : DecodedEvent) : Written σ :=
  w.writeLines style state [Line.ofEvent e]

end Writer

end Tracepoint.Trace
