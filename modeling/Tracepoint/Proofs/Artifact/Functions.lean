import Mathlib
import Tracepoint.Proofs.Artifact.Constructions
import Tracepoint.Proofs.Artifact.Execution
import Tracepoint.Proofs.Artifact.MessageTexts
import Tracepoint.Proofs.Artifact.Tokens

/-!
# The functions of decoder sources

The source of a decoder is read back as a struct and functions.  Of a function, the tokens before
its first brace and those from there on are kept.

* `DecoderText` — what is read off the lines of a decoder;
* `DecoderTree.text` — what that is for a decoder, part by part;
* `DecoderTree.structs_lines`, `ofLines?_lines` — it is read off the lines.
-/

set_option autoImplicit false

namespace Tracepoint.Artifact

/-! ## Reading functions -/

/-- The text of a function: what stands before its first brace, and what is left from there. -/
structure FunctionText where
  signature : List Token
  body : List Token
  deriving DecidableEq, Repr

namespace FunctionText

/-- The tokens of a function, parted before the first opening brace. -/
def ofTokens (ts : List Token) : FunctionText where
  signature := ts.takeWhile (· ≠ .mark '{')
  body := ts.dropWhile (· ≠ .mark '{')

/-- The word behind `fn`. -/
def name? (f : FunctionText) : Option Token :=
  (f.signature.dropWhile (· ≠ .word "fn"))[1]?

theorem ofTokens_append {front : List Token} (h : .mark '{' ∉ front) (body : List Token) :
    ofTokens (front ++ .mark '{' :: body) = ⟨front, .mark '{' :: body⟩ := by
  have hfront : ∀ t ∈ front, decide (t ≠ .mark '{') = true := by
    intro t ht
    have hne : t ≠ .mark '{' := fun heq => h (heq ▸ ht)
    exact decide_eq_true hne
  rw [ofTokens, List.takeWhile_append_of_pos hfront, List.dropWhile_append_of_pos hfront,
    List.takeWhile_cons_of_neg (by simp), List.dropWhile_cons_of_neg (by simp), List.append_nil]

end FunctionText

/-- How lines start that open a function of a type. -/
def functionKeywords : List String := ["    fn ", "    pub fn "]

/-- Functions of a type. -/
def functions : Grammar (List Token) (List Token) where
  header? line :=
    if functionKeywords.any fun keyword => keyword.toList.isPrefixOf line.toList
    then some (tokens line) else none
  closes line := line = "    \x7d"
  entryOf? line := some (tokens line)

/-- What is read off the lines of a decoder. -/
structure DecoderText where
  /-- The fields of the struct. -/
  fields : List RustField
  functions : List FunctionText
  deriving DecidableEq, Repr

namespace DecoderText

/-- Reads the lines of a decoder, which has one struct. -/
def ofLines? (lines : List String) : Option DecoderText :=
  match rustStructs.blocks? lines, Artifact.functions.blocks? lines with
  | some [struct], some functions =>
    some ⟨struct.entries, functions.map fun f => .ofTokens (f.header ++ f.entries.flatten)⟩
  | _, _ => none

/-- The names of the fields of the struct. -/
def fieldNames (text : DecoderText) : List String :=
  text.fields.map RustField.name

end DecoderText

/-! ## Lines -/

/-- A line that starts in another way than functions do opens none. -/
theorem functions_of_not_prefix {line : String}
    (h : ∀ keyword ∈ functionKeywords, ¬ keyword.toList <+: line.toList) :
    functions.header? line = none := by
  have hnot : functionKeywords.any
      (fun keyword => keyword.toList.isPrefixOf line.toList) = false := by
    rw [List.any_eq_false]
    intro keyword hkeyword
    rw [List.isPrefixOf_iff_prefix]
    exact h keyword hkeyword
  exact if_neg (Bool.not_eq_true _ ▸ hnot)

theorem functions_of_clash {start : String}
    (h : ∀ keyword ∈ functionKeywords, Template.Clash keyword start) (rest : String) :
    functions.header? (start ++ rest) = none := by
  refine functions_of_not_prefix fun keyword hkeyword => ?_
  rw [String.toList_append]
  exact Template.not_prefix_of_clash (h keyword hkeyword) rest.toList

/-- How lines start that have a meaning where structs and functions are read. -/
def fronts : List String := ["pub struct ", "    \x7d"] ++ functionKeywords

/-- An empty line, or one that starts in another way than those. -/
def Inner (line : String) : Prop :=
  line = "" ∨ ∀ front ∈ fronts, Template.Clash front line

instance (line : String) : Decidable (Inner line) :=
  inferInstanceAs (Decidable (_ ∨ _))

namespace Inner

variable {line : String}

theorem of_start {start : String} (h : ∀ front ∈ fronts, Template.Clash front start)
    (rest : String) : Inner (start ++ rest) := by
  refine .inr fun front hfront => ?_
  obtain ⟨pair, hpair, hne⟩ := h front hfront
  refine ⟨pair, ?_, hne⟩
  obtain ⟨i, hi⟩ := List.mem_iff_getElem?.mp hpair
  obtain ⟨hleft, hright⟩ := List.getElem?_zip_eq_some.mp hi
  refine List.mem_iff_getElem?.mpr ⟨i, List.getElem?_zip_eq_some.mpr ⟨hleft, ?_⟩⟩
  rw [String.toList_append, List.getElem?_append_left (List.getElem?_eq_some_iff.mp hright).1,
    hright]

theorem not_prefix (h : Inner line) {front : String} (hfront : front ∈ fronts) :
    ¬ front.toList <+: line.toList := by
  rcases h with rfl | h
  · have hne : ∀ front ∈ fronts, ¬ front.toList <+: "".toList := by decide
    exact hne front hfront
  · simpa using Template.not_prefix_of_clash (h front hfront) []

theorem functions_header (h : Inner line) : functions.header? line = none :=
  functions_of_not_prefix fun _ hkeyword => h.not_prefix (List.mem_append_right _ hkeyword)

theorem isEntry (h : Inner line) : functions.IsEntry line (tokens line) where
  header := h.functions_header
  closes := by
    refine decide_eq_false ?_
    rintro rfl
    exact h.not_prefix (by decide) (List.prefix_refl "    \x7d".toList)
  entry := rfl

theorem structs_header (h : Inner line) : rustStructs.header? line = none := by
  have hfront : "pub struct " ∈ fronts := by decide
  have hnot := h.not_prefix hfront
  show opened? "pub struct " line = none
  rw [opened?, Template.read?, FieldLine.after?_eq_none.mpr hnot]
  rfl

end Inner

namespace DecoderTree

variable (t : DecoderTree)

/-- The lines of the decoding function before its body, but for the first. -/
def decodeSignature : List String := [
  "        " ++ binder t.usesHeader "header" ++ ": &Header,",
  "        payload: &mut &[u8],",
  "        " ++ binder t.usesContext "ctx" ++ ": &Context,",
  "    ) -> Result<Self, DecodeError> \x7b"]

/-- The lines of the decoding function. -/
def decodeBody : List String :=
  [ "        ensure_payload(Self::NAME, payload, Self::PAYLOAD_SIZE)?;",
    "",
    "        let " ++ (if t.usesHeader then "mut event" else "event") ++ " = Self \x7b"] ++
  t.initials.map (fun (name, initial) => "            " ++ name ++ ": " ++ initial.rust ++ ",") ++
  ["        \x7d;"] ++
  (if t.usesHeader then [""] else []) ++
  t.resolutions.map (fun s => "        " ++ s.rust) ++
  t.forgets.map (fun s => "        " ++ s.rust) ++
  [ "",
    "        Ok(event)"]

/-- The first line of the function that shows all of an event. -/
def renderOpening : String :=
  "    fn render(&self, " ++ binder t.usesReturn "ret" ++ ": i64) -> String \x7b"

def renderBody : List String :=
  [ "        format!(",
    "            " ++ Text.Quoted.quote (templateText t.template) ++ ","] ++
  t.values.map (fun v => "            " ++ v.rust ++ ",") ++
  ["        )"]

/-- The first line of the function that gives one argument. -/
def argOpening : String :=
  "    fn arg(&self, n: usize, " ++ binder t.usesReturn "ret" ++
    ": i64) -> Result<String, ArgError> \x7b"

def argBody : List String :=
  ["        match n \x7b"] ++
  t.arms.map (fun (position, text) =>
    "            " ++ toString position ++ " => Ok(" ++ text.rust ++ ".to_string()),") ++
  [ "            _ => Err(ArgError::OutOfRange \x7b",
    "                event: Self::NAME,",
    "                index: n,",
    "            \x7d),",
    "        \x7d"]

/-- The first line of the function that lists the arguments. -/
def argsOpening : String :=
  "    fn args(&self, " ++ binder t.usesReturn "ret" ++
    ": i64) -> Vec<(&'static str, String)> \x7b"

def argsBody : List String :=
  ["        vec!["] ++ t.entries.map (fun e => "            " ++ e.rust) ++ ["        ]"]

def metricBody : List String :=
  [ "        Some(Metric \x7b",
    "            event: Some(metric::Event::" ++ t.typeName ++ "(" ++ t.message ++ " \x7b"] ++
  t.exports.map (fun e => "                " ++ e.rust) ++
  [ "            \x7d)),",
    "            ..Default::default()",
    "        \x7d)"]

/-- The lines between the struct of a decoder and its decoding function. -/
def constantLines : List String := [
  "",
  "impl " ++ t.typeName ++ " \x7b",
  "    pub const NAME: &'static str = " ++ Text.Quoted.quote t.event ++ ";",
  "    pub const ARG_NAMES: &'static [&'static str] = &[" ++
    ", ".intercalate (t.argNames.map Text.Quoted.quote) ++ "];",
  "    /// Bytes following the common header.",
  "    pub const PAYLOAD_SIZE: usize = " ++ toString t.payloadSize ++ ";",
  ""]

/-- The lines of a function. -/
def functionLines (opening : String) (lines : List String) : List String :=
  opening :: lines ++ ["    \x7d"]

/-- The lines between the decoding function of a decoder and the functions that show an event. -/
def implLines : List String :=
  ["\x7d", "", "impl TraceEvent for " ++ t.typeName ++ " \x7b"]

/-- The functions of a decoder: how each is opened, and the lines in it. -/
def parts : List (String × List String) := [
  ("    pub fn decode(", t.decodeSignature ++ t.decodeBody),
  (t.renderOpening, t.renderBody),
  (t.argOpening, t.argBody),
  (t.argsOpening, t.argsBody),
  ("    fn metric(&self) -> Option<Metric> \x7b", t.metricBody)]

/-- The lines of a decoder, function by function. -/
theorem lines_parts :
    t.lines = t.structLines ++ (t.constantLines ++
      (functionLines "    pub fn decode(" (t.decodeSignature ++ t.decodeBody) ++ (t.implLines ++
        ((functionLines t.renderOpening t.renderBody ++ [""]) ++
          ((functionLines t.argOpening t.argBody ++ [""]) ++
            ((functionLines t.argsOpening t.argsBody ++ [""]) ++
              (functionLines "    fn metric(&self) -> Option<Metric> \x7b" t.metricBody ++
                ["\x7d"]))))))) := by
  have hdecode : t.decodeLines = t.constantLines ++
      (functionLines "    pub fn decode(" (t.decodeSignature ++ t.decodeBody) ++ ["\x7d"]) := by
    unfold decodeLines constantLines functionLines decodeSignature decodeBody
    simp only [List.append_assoc, List.cons_append, List.nil_append]
  have hrender : t.renderLines = functionLines t.renderOpening t.renderBody ++ [""] := by
    unfold renderLines functionLines renderOpening renderBody
    simp only [List.append_assoc, List.cons_append, List.nil_append]
  have harg : t.argLines = functionLines t.argOpening t.argBody ++ [""] := by
    unfold argLines functionLines argOpening argBody
    simp only [List.append_assoc, List.cons_append, List.nil_append]
  have hargs : t.argsLines = functionLines t.argsOpening t.argsBody ++ [""] := by
    unfold argsLines functionLines argsOpening argsBody
    simp only [List.append_assoc, List.cons_append, List.nil_append]
  have hmetric : t.metricLines =
      functionLines "    fn metric(&self) -> Option<Metric> \x7b" t.metricBody := by
    unfold metricLines functionLines metricBody
    simp only [List.append_assoc, List.cons_append, List.nil_append]
  unfold lines traceLines implLines
  rw [hdecode, hrender, harg, hargs, hmetric]
  simp only [List.append_assoc, List.cons_append, List.nil_append]

/-! ## Reading a decoder -/

variable {t}

theorem inner_decode : ∀ line ∈ t.decodeSignature ++ t.decodeBody, Inner line := by
  simp only [decodeSignature, decodeBody, List.forall_mem_append, List.forall_mem_cons,
    List.forall_mem_map, String.append_assoc]
  refine ⟨⟨.of_start (by decide) _, by decide, .of_start (by decide) _, by decide, by simp⟩,
    ⟨⟨⟨⟨⟨⟨⟨by decide, by decide, .of_start (by decide) _, by simp⟩, ?_⟩, by decide, by simp⟩, ?_⟩,
      ?_⟩, ?_⟩, by decide, by decide, by simp⟩⟩
  · exact fun _ _ => .of_start (by decide) _
  · cases t.usesHeader <;> decide
  · exact fun _ _ => .of_start (by decide) _
  · exact fun _ _ => .of_start (by decide) _

theorem inner_render : ∀ line ∈ t.renderBody, Inner line := by
  simp only [renderBody, List.forall_mem_append, List.forall_mem_cons, List.forall_mem_map,
    String.append_assoc]
  exact ⟨⟨⟨by decide, .of_start (by decide) _, by simp⟩, fun _ _ => .of_start (by decide) _⟩,
    by decide, by simp⟩

theorem inner_arg : ∀ line ∈ t.argBody, Inner line := by
  simp only [argBody, List.forall_mem_append, List.forall_mem_cons, List.forall_mem_map,
    String.append_assoc]
  exact ⟨⟨⟨by decide, by simp⟩, fun _ _ => .of_start (by decide) _⟩,
    by decide, by decide, by decide, by decide, by decide, by simp⟩

theorem inner_args : ∀ line ∈ t.argsBody, Inner line := by
  simp only [argsBody, List.forall_mem_append, List.forall_mem_cons, List.forall_mem_map]
  exact ⟨⟨⟨by decide, by simp⟩, fun _ _ => .of_start (by decide) _⟩, by decide, by simp⟩

theorem inner_metric : ∀ line ∈ t.metricBody, Inner line := by
  simp only [metricBody, List.forall_mem_append, List.forall_mem_cons, List.forall_mem_map,
    String.append_assoc]
  exact ⟨⟨⟨by decide, .of_start (by decide) _, by simp⟩, fun _ _ => .of_start (by decide) _⟩,
    by decide, by decide, by decide, by simp⟩

/-- The fields of the struct of a decoder. -/
def structFields (t : DecoderTree) : List RustField :=
  t.fields.map fun (name, ty) => ⟨name, ty.rust⟩

theorem ends_fieldType (ty : FieldType) : Template.Ends ty.rust "," := by
  refine ⟨',', [], rfl, ?_⟩
  match ty with
  | .value .buffer => decide
  | .value .i32 => decide
  | .value .u32 => decide
  | .value .i64 => decide
  | .value .u64 => decide
  | .path => decide

theorem structs_structLines (htype : IsWord t.typeName)
    (hnames : ∀ field ∈ t.fields, IsWord field.1) :
    rustStructs.Reads t.structLines [⟨t.typeName, t.structFields⟩] := by
  have hbefore : rustStructs.Reads ["", "/// `" ++ t.event ++ "` as decoded from the probe.",
      "#[derive(Clone, Debug, PartialEq, Eq)]"] [] := by
    refine Grammar.reads_nil ?_
    simp only [List.forall_mem_cons, String.append_assoc]
    exact ⟨by decide, header?_of_clash (by decide) _, by decide, by simp⟩
  have hfields : List.Forall₂ rustStructs.IsEntry
      (t.fields.map fun (name, ty) => "    pub " ++ name ++ ": " ++ ty.rust ++ ",")
      t.structFields := by
    refine forall₂_map ?_
    rintro ⟨name, ty⟩ hfield
    have hread := RustField.read?_eq (hnames _ hfield) (ends_fieldType ty)
    simp only [String.append_assoc] at hread ⊢
    exact isEntry_keyed (by decide) (by decide) hread
  exact hbefore.append (Grammar.reads_block (opened?_eq htype _) hfields (by decide)
    (by decide))

/-- A line that starts like a function opens one. -/
theorem functions_of_start {start : String}
    (h : ∃ keyword ∈ functionKeywords, keyword.toList <+: start.toList) (rest : String) :
    functions.header? (start ++ rest) = some (tokens (start ++ rest)) := by
  obtain ⟨keyword, hkeyword, hprefix⟩ := h
  refine if_pos (List.any_eq_true.mpr ⟨keyword, hkeyword, ?_⟩)
  rw [List.isPrefixOf_iff_prefix, String.toList_append]
  exact hprefix.trans (List.prefix_append _ _)

/-- A field does not look like a function, even if it is named like the keyword. -/
theorem functions_field {name : String} (hname : IsWord name) (rest : String) :
    functions.header? ("    pub " ++ (name ++ (": " ++ rest))) = none := by
  have hfn : IsWord "fn" := by decide
  have hfront : "    pub fn " = "    pub " ++ ("fn" ++ " ") := by decide
  refine functions_of_not_prefix (List.forall_mem_cons.mpr ⟨?_, List.forall_mem_singleton.mpr ?_⟩)
  · rw [String.toList_append]
    exact Template.not_prefix_of_clash (by decide) _
  · rw [hfront]
    exact not_prefix_field hfn hname rest

theorem functions_structLines (h : t.WellSpelled) : ∀ line ∈ t.structLines,
    functions.header? line = none := by
  simp only [structLines, List.forall_mem_append, List.forall_mem_cons, List.forall_mem_map,
    String.append_assoc]
  exact ⟨⟨⟨by decide, functions_of_clash (by decide) _, by decide,
    functions_of_clash (by decide) _, by simp⟩,
    fun field hmem => functions_field (h.fields field hmem) _⟩, by decide, by simp⟩

/-- The lines of a decoder around its struct and its functions. -/
theorem functions_outerLines : ∀ line ∈ t.constantLines ++ t.implLines,
    functions.header? line = none := by
  simp only [constantLines, implLines, List.forall_mem_append, List.forall_mem_cons,
    String.append_assoc]
  exact ⟨⟨by decide, functions_of_clash (by decide) _, functions_of_clash (by decide) _,
    functions_of_clash (by decide) _, by decide, functions_of_clash (by decide) _, by decide,
    by simp⟩, by decide, by decide, functions_of_clash (by decide) _, by simp⟩

theorem structs_outerLines : ∀ line ∈ t.constantLines ++ t.implLines,
    rustStructs.header? line = none := by
  simp only [constantLines, implLines, List.forall_mem_append, List.forall_mem_cons,
    String.append_assoc]
  exact ⟨⟨by decide, header?_of_clash (by decide) _, header?_of_clash (by decide) _,
    header?_of_clash (by decide) _, by decide, header?_of_clash (by decide) _, by decide,
    by simp⟩, by decide, by decide, header?_of_clash (by decide) _, by simp⟩

/-- What is read off the lines of a decoder is what is read off its struct and its functions. -/
theorem reads_parts {α β : Type} {g : Grammar α β} {struct : List (Block α β)}
    {blocks : String × List String → List (Block α β)} (hstruct : g.Reads t.structLines struct)
    (houter : ∀ line ∈ t.constantLines ++ t.implLines, g.header? line = none)
    (hblank : g.header? "" = none) (hclosing : g.header? "\x7d" = none)
    (hparts : ∀ f ∈ t.parts, g.Reads (functionLines f.1 f.2) (blocks f)) :
    g.Reads t.lines (struct ++ t.parts.flatMap blocks) := by
  rw [List.forall_mem_append] at houter
  simp only [parts, List.forall_mem_cons] at hparts
  obtain ⟨hdecode, hrender, harg, hargs, hmetric, -⟩ := hparts
  have hconstants : g.Reads t.constantLines [] := Grammar.reads_nil houter.1
  have himpl : g.Reads t.implLines [] := Grammar.reads_nil houter.2
  have hgap : g.Reads [""] [] := Grammar.reads_nil (by simpa using hblank)
  have hend : g.Reads ["\x7d"] [] := Grammar.reads_nil (by simpa using hclosing)
  have hall := hstruct.append (hconstants.append (hdecode.append (himpl.append
    ((hrender.append hgap).append ((harg.append hgap).append ((hargs.append hgap).append
      (hmetric.append hend)))))))
  rw [lines_parts]
  simpa [parts] using hall

/-- A function that is opened by a line and has the given lines in it. -/
structure Part (f : String × List String) : Prop where
  opening : functions.header? f.1 = some (tokens f.1)
  structs : rustStructs.header? f.1 = none
  inner : ∀ line ∈ f.2, Inner line

theorem parts_spelled : ∀ f ∈ t.parts, Part f := by
  have hshown {start : String} (h : ∃ keyword ∈ functionKeywords, keyword.toList <+: start.toList)
      (hclash : Template.Clash "pub struct " start) {rest : String} {lines : List String}
      (hlines : ∀ line ∈ lines, Inner line) : Part (start ++ rest, lines) :=
    ⟨functions_of_start h rest, header?_of_clash hclash rest, hlines⟩
  have hrender : Part (t.renderOpening, t.renderBody) := by
    unfold renderOpening
    rw [String.append_assoc]
    exact hshown (by decide) (by decide) inner_render
  have harg : Part (t.argOpening, t.argBody) := by
    unfold argOpening
    rw [String.append_assoc]
    exact hshown (by decide) (by decide) inner_arg
  have hargs : Part (t.argsOpening, t.argsBody) := by
    unfold argsOpening
    rw [String.append_assoc]
    exact hshown (by decide) (by decide) inner_args
  have hdecode : Part ("    pub fn " ++ "decode(", t.decodeSignature ++ t.decodeBody) :=
    hshown (by decide) (by decide) inner_decode
  have hmetric : Part ("    fn " ++ "metric(&self) -> Option<Metric> \x7b", t.metricBody) :=
    hshown (by decide) (by decide) inner_metric
  simp only [parts, List.forall_mem_cons]
  exact ⟨hdecode, hrender, harg, hargs, hmetric, by simp⟩

theorem Part.reads_functions {f : String × List String} (h : Part f) :
    functions.Reads (functionLines f.1 f.2) [⟨tokens f.1, f.2.map tokens⟩] := by
  have hentries : List.Forall₂ functions.IsEntry f.2 (f.2.map tokens) := by
    rw [List.forall₂_map_right_iff, List.forall₂_same]
    exact fun line hline => (h.inner line hline).isEntry
  exact Grammar.reads_block h.opening hentries (by decide) (by decide)

theorem Part.reads_structs {f : String × List String} (h : Part f) :
    rustStructs.Reads (functionLines f.1 f.2) [] := by
  refine Grammar.reads_nil ?_
  simp only [functionLines, List.forall_mem_append, List.forall_mem_cons]
  exact ⟨⟨h.structs, fun line hline => (h.inner line hline).structs_header⟩, by decide, by simp⟩

/-- The text of a function. -/
def partText (f : String × List String) : FunctionText :=
  .ofTokens (tokens f.1 ++ (f.2.map tokens).flatten)

/-- What is read off the lines of a decoder. -/
def text (t : DecoderTree) : DecoderText where
  fields := t.structFields
  functions := t.parts.map partText

/-- **The struct of a decoder** is the only one in its lines, whatever event it is for. -/
theorem structs_lines (htype : IsWord t.typeName) (hnames : ∀ field ∈ t.fields, IsWord field.1) :
    rustStructs.blocks? t.lines = some [⟨t.typeName, t.structFields⟩] := by
  have hreads := reads_parts (structs_structLines htype hnames) structs_outerLines (by decide)
    (by decide) (fun f hf => (parts_spelled f hf).reads_structs) []
  have hnone : t.parts.flatMap (fun _ => ([] : List (Block String RustField))) = [] :=
    List.flatMap_eq_nil_iff.mpr fun _ _ => rfl
  simpa [Grammar.blocks?, hnone] using hreads

/-- **A decoder is read off its lines**, with its struct and its functions. -/
theorem ofLines?_lines (h : t.WellSpelled) : DecoderText.ofLines? t.lines = some t.text := by
  have hfunctions : functions.blocks? t.lines =
      some (t.parts.map fun f => ⟨tokens f.1, f.2.map tokens⟩) := by
    have hreads := reads_parts (Grammar.reads_nil (functions_structLines h))
      functions_outerLines (by decide) (by decide)
      (fun f hf => (parts_spelled f hf).reads_functions) []
    simpa [Grammar.blocks?, List.map_eq_flatMap] using hreads
  rw [DecoderText.ofLines?, structs_lines h.typeName h.fields, hfunctions, text]
  simp only [List.map_map]
  rfl

end DecoderTree

end Tracepoint.Artifact
