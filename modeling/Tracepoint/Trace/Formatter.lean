import Tracepoint.Trace.Writer

/-!
# Formatting step by step

A line is written in steps: it is opened, its arguments are pushed one by one, and it is finished.
What a step writes for an argument depends on how many arguments were pushed before it.  A step
that fails is the last one.
-/

set_option autoImplicit false

namespace Tracepoint.Trace

namespace Line

/-- The pieces that pushing each argument takes, where so many were pushed before. -/
def pushes (style : Style) : Nat → List Bytes → List (List Bytes)
  | _, [] => []
  | pushed, arg :: args => argument style (pushed = 0) arg :: pushes style (pushed + 1) args

/-- The pieces that each step takes: opening the line, pushing its arguments, finishing it. -/
def steps (style : Style) (line : Line) : List (List Bytes) :=
  line.opening style :: (pushes style 0 line.args ++ [line.closing style])

end Line

namespace Writer

variable {σ : Type}

/-- Carries out steps in order, up to the first one that fails: what became of each. -/
def runSteps (w : Writer σ) (state : σ) : List (List Bytes) → List (Written σ)
  | [] => []
  | step :: steps =>
    let written := w.writePieces state step
    match written.error? with
    | some _ => [written]
    | none => written :: w.runSteps written.state steps

/-- Formats lines one after the other: what became of each step. -/
def format (w : Writer σ) (style : Style) (state : σ) (lines : List Line) : List (Written σ) :=
  w.runSteps state (lines.flatMap (Line.steps style))

end Writer

end Tracepoint.Trace
