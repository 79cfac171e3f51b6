import Mathlib
import Tracepoint.Proofs.Artifact.Expressions

/-!
# Placeholders and values

A decoder shows an event by a call of `format!` with a template and values.  The template has
labels and displays by turns, and a display has a placeholder for each value that it shows.  The
values are parted by commas.

* `placeholders?`, `formatCall?` — how template and values are read;
* `placeholders?_templateText` — the placeholders are those that the displays have for the labels;
* `formatCall?_renderBody` — the call of a decoder has its template and its values.
-/

set_option autoImplicit false

namespace Tracepoint.Artifact

open DecoderTree

/-! ## Reading templates and calls -/

/-- A place in a template for a value, with the label that stands before it. -/
inductive Placeholder where
  | quoted (label : String)
  | plain (label : String)
  /-- In angle brackets behind a descriptor. -/
  | path (label : String)
  deriving DecidableEq, Repr

namespace Display

/-- The places for an argument that is displayed so. -/
def slots (label : String) : Display → List Placeholder
  | .quoted => [.quoted label]
  | .withPath => [.plain label, .path label]
  | .plain => [.plain label]

/-- The display with the given text. -/
def ofText? (text : String) : Option Display :=
  [quoted, withPath, plain].find? fun display => display.placeholders = text

theorem ofText?_placeholders (display : Display) : ofText? display.placeholders = some display := by
  cases display <;> decide

end Display

/-- The places in the pieces between the blanks of a template: labels and displays take turns, and
nothing follows the last blank. -/
def slotsIn? : List (List Char) → Option (List Placeholder)
  | [] => none
  | [piece] => if piece = [] then some [] else none
  | label :: display :: pieces => do
    let display ← Display.ofText? (String.ofList display)
    let slots ← slotsIn? pieces
    return display.slots (String.ofList label) ++ slots

/-- The places in a template. -/
def placeholders? (template : String) : Option (List Placeholder) :=
  slotsIn? (template.toList.splitOn ' ')

/-- The arguments of a call, parted at the commas that stand in no inner call. -/
def argumentsIn : Nat → List Token → List Token → List (List Token)
  | _, _, [] => []
  | depth, seen, t :: ts =>
    if depth = 0 ∧ t = .mark ')' then
      if seen = [] then [] else [seen]
    else if depth = 0 ∧ t = .mark ',' then seen :: argumentsIn 0 [] ts
    else
      let depth := if t = .mark '(' then depth + 1 else if t = .mark ')' then depth - 1 else depth
      argumentsIn depth (seen ++ [t]) ts

/-- The template and the values of the call that a body consists of. -/
def formatCall? (body : List Token) : Option (String × List (List Token)) :=
  match body with
  | brace :: format :: mark :: opening :: .literal template :: comma :: ts =>
    if [brace, format, mark, opening, comma] =
      [.mark '{', .word "format", .mark '!', .mark '(', .mark ','] then
      some (template, argumentsIn 0 [] ts)
    else none
  | _ => none

/-! ## Templates -/

/-- The placeholders for the arguments of a template. -/
def templateSlots (template : List (String × Display)) : List Placeholder :=
  template.flatMap fun (label, display) => display.slots label

theorem slotsIn?_cons {label : String} {display : Display} {pieces : List (List Char)}
    {rest : List Placeholder} (h : slotsIn? pieces = some rest) :
    slotsIn? (label.toList :: display.placeholders.toList :: pieces) =
      some (display.slots label ++ rest) := by
  rw [slotsIn?, h, String.ofList_toList, String.ofList_toList, Display.ofText?_placeholders]
  rfl

/-- **The placeholders of a template** are those of its displays, label by label. -/
theorem placeholders?_templateText {template : List (String × Display)}
    (h : ∀ argument ∈ template, IsWord argument.1) :
    placeholders? (templateText template) = some (templateSlots template) := by
  induction template with
  | nil => rfl
  | cons argument template ih =>
    obtain ⟨hlabel, htemplate⟩ := List.forall_mem_cons.mp h
    have hdisplay : ' ' ∉ argument.2.placeholders.toList := by
      cases argument.2 <;> decide
    have htext : (templateText (argument :: template)).toList = argument.1.toList ++
        ' ' :: (argument.2.placeholders.toList ++ ' ' :: (templateText template).toList) := by
      simp [templateText]
    rw [placeholders?, htext, List.splitOn_append_cons_self_of_not_mem (hlabel.not_mem (by decide)),
      List.splitOn_append_cons_self_of_not_mem hdisplay]
    exact slotsIn?_cons (ih htemplate)

/-! ## Calls -/

/-- Two lists are related that are made of pieces for one, item by item. -/
theorem forall₂_flatMap {ι γ δ : Type} {R : γ → δ → Prop} {items : List ι} {left : ι → List γ}
    {right : ι → List δ} (h : ∀ item ∈ items, List.Forall₂ R (left item) (right item)) :
    List.Forall₂ R (items.flatMap left) (items.flatMap right) :=
  List.rel_flatten (forall₂_map h)

/-- A value and the comma behind it are read as one. -/
theorem argumentsIn_value (v : TemplateValue) (ts : List Token) :
    argumentsIn 0 [] (v.tokens ++ [Token.mark ','] ++ ts) = v.tokens :: argumentsIn 0 [] ts := by
  match v with
  | .shown (.plain _) => rfl
  | .shown (.terminated _) => rfl
  | .shown (.bounded _) => rfl
  | .path _ => rfl

theorem argumentsIn_values (values : List TemplateValue) :
    argumentsIn 0 [] ((values.flatMap fun v => v.tokens ++ [Token.mark ',']) ++ [Token.mark ')']) =
      values.map TemplateValue.tokens := by
  induction values with
  | nil => rfl
  | cons v values ih =>
    rw [List.flatMap_cons, List.append_assoc, argumentsIn_value, ih, List.map_cons]

/-- The functions of a decoder differ in their names. -/
theorem functions_names (t : DecoderTree) : t.text.functions.map (fun f => (f.name?, f.body)) = [
    (some (.word "decode"), bodyTokens t.decodeBody),
    (some (.word "render"), bodyTokens t.renderBody),
    (some (.word "arg"), bodyTokens t.argBody), (some (.word "args"), bodyTokens t.argsBody),
    (some (.word "metric"), bodyTokens t.metricBody)] := by
  rw [functions_text]
  rfl

/-- **The call that a decoder shows an event by** has the template and the values of the
decoder. -/
theorem formatCall?_renderBody {t : DecoderTree} (h : t.Named) :
    formatCall? (bodyTokens t.renderBody) =
      some (templateText t.template, t.values.map TemplateValue.tokens) := by
  have hvalues : ((t.values.map fun v => "            " ++ v.rust ++ ",").map tokens).flatten =
      t.values.flatMap fun v => v.tokens ++ [Token.mark ','] := by
    rw [List.map_map, List.flatMap_def]
    refine congrArg List.flatten (List.map_congr_left fun v hv => ?_)
    exact (TemplateValue.sealed_line (h.values v hv)).tokens_eq
  have hopening : tokens "        format!(" = [.word "format", .mark '!', .mark '('] := by
    decide +kernel
  have hend : tokens "        )" = [.mark ')'] := by
    decide +kernel
  have hbody : bodyTokens t.renderBody = [Token.mark '{', .word "format", .mark '!',
      .mark '(', .literal (templateText t.template), .mark ','] ++
      ((t.values.flatMap fun v => v.tokens ++ [Token.mark ',']) ++ [Token.mark ')']) := by
    unfold bodyTokens renderBody
    simp only [List.map_append, List.flatten_append, hvalues, List.map_cons, List.map_nil, hopening,
      hend, (sealed_template h).tokens_eq]
    simp
  rw [hbody, ← argumentsIn_values]
  rfl

end Tracepoint.Artifact
