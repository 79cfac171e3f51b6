import Mathlib
import Tracepoint.Proofs.Artifact.Functions

/-!
# The expressions of decoder sources

Which fields of the event, and which of their arguments, the functions of a decoder use.  All else
that they mention (types, other functions, the fields that they fill) is of no interest here.

* `relevant` — the uses that matter;
* `LinesUse` — what lines use that can be looked at one by one;
* `DecoderTree.Named` — what the names are made of;
* `DecoderTree.accounts_text` — what the functions of a decoder use.
-/

set_option autoImplicit false

namespace Tracepoint.Artifact

/-! ## Uses that matter -/

/-- The names that an event has in the functions of a decoder. -/
def eventNames : List String := ["event", "self"]

/-- The arguments of these functions that are marked where they are not used. -/
def argumentNames : List String := ["header", "ctx", "ret"]

/-- A field of the event, or an argument. -/
def Use.isRelevant (u : Use) : Bool :=
  (u.name ∈ eventNames && u.part?.isSome) || u.name ∈ argumentNames

/-- The uses that matter. -/
def relevant (ts : List Token) : List Use :=
  (uses ts).filter Use.isRelevant

/-- The use of a field of an event that is shown. -/
def Use.ofSelf (field : String) : Use :=
  ⟨"self", some field, none⟩

/-- Lines that each use the given names and do not lead on to the next. -/
def LinesUse (lines : List String) (us : List Use) : Prop :=
  (∀ line ∈ lines, tokens line = [] ∨ Closed (tokens line)) ∧
    lines.flatMap (fun line => relevant (tokens line)) = us

instance (ts : List Token) : Decidable (Closed ts) :=
  inferInstanceAs (Decidable (_ = _))

instance (lines : List String) (us : List Use) : Decidable (LinesUse lines us) :=
  inferInstanceAs (Decidable (_ ∧ _))

namespace LinesUse

variable {lines lines' : List String} {us us' : List Use}

theorem append (h : LinesUse lines us) (h' : LinesUse lines' us') :
    LinesUse (lines ++ lines') (us ++ us') :=
  ⟨List.forall_mem_append.mpr ⟨h.1, h'.1⟩, by rw [List.flatMap_append, h.2, h'.2]⟩

theorem map {α : Type} {items : List α} {line : α → String} {us : α → List Use}
    (h : ∀ a ∈ items, LinesUse [line a] (us a)) :
    LinesUse (items.map line) (items.flatMap us) := by
  constructor
  · rw [List.forall_mem_map]
    exact fun a ha => (h a ha).1 _ (List.mem_singleton_self _)
  · rw [List.flatMap_map]
    refine List.flatMap_congr fun a ha => ?_
    rw [← (h a ha).2, List.flatMap_singleton]

/-- What a line uses is read off its tokens. -/
theorem line {line : String} {ts : List Token} (h : Sealed line ts) (hclosed : Closed ts) :
    LinesUse [line] (relevant ts) := by
  constructor
  · rw [List.forall_mem_singleton, h.tokens_eq]
    exact .inr hclosed
  · rw [List.flatMap_singleton, h.tokens_eq]

/-- The body of a function uses what its lines use. -/
theorem relevant_flatten (h : LinesUse lines us) : relevant (lines.map tokens).flatten = us := by
  have huses : uses (lines.map tokens).flatten = (lines.map tokens).flatMap uses := by
    refine uses_flatten ?_
    rw [List.forall_mem_map]
    exact h.1
  rw [relevant, huses, List.filter_flatMap, List.flatMap_map, ← h.2]
  rfl

end LinesUse

theorem closed_append {us : List Token} (h : Closed us) (ts : List Token) : Closed (ts ++ us) := by
  rw [Closed, List.getLast?_append_of_ne_nil _ h.ne_nil]
  exact h

theorem closed_mark (c : Char) (ts : List Token) : Closed (ts ++ [.mark c]) :=
  closed_append (show Closed [.mark c] from rfl) ts

/-- A word that is no argument and has no part taken of it does not matter. -/
theorem relevant_word {w : String} (h : w ∉ argumentNames) (c : Char) (ts : List Token) :
    relevant (.word w :: .mark c :: ts) = relevant ts := by
  have hword : Use.isRelevant ⟨w, none, none⟩ = false := by simp [Use.isRelevant, h]
  show List.filter Use.isRelevant (⟨w, none, none⟩ :: uses ts) = relevant ts
  rw [List.filter_cons_of_neg (by simp [hword])]
  rfl

/-! ## Expressions and statements -/

namespace Shown

/-- The field that is shown. -/
def field : Shown → String
  | .plain field => field
  | .terminated field => field
  | .bounded field => field

def tokens : Shown → List Token
  | .plain field => [.word "self", .dot, .word field]
  | .terminated field =>
    [.word "String", .colon, .colon, .word "from_utf8_lossy", .mark '(', .word "c_str", .mark '(',
      .mark '&', .word "self", .dot, .word field, .mark ')', .mark ')']
  | .bounded field =>
    [.word "String", .colon, .colon, .word "from_utf8_lossy", .mark '(', .word "ret_bounded",
      .mark '(', .mark '&', .word "self", .dot, .word field, .mark ',', .word "ret", .mark ')',
      .mark ')']

def uses : Shown → List Use
  | .plain field => [.ofSelf field]
  | .terminated field => [.ofSelf field]
  | .bounded field => [.ofSelf field, ⟨"ret", none, none⟩]

theorem spelled {s : Shown} (h : IsName s.field) : Spelled s.rust s.tokens := by
  cases s with
  | plain field => exact .append (sealed_literal rfl rfl) h.spelled
  | terminated field =>
    exact (Sealed.literal (.append (sealed_literal rfl rfl) h.spelled) rfl rfl rfl).weaken
  | bounded field =>
    exact (Sealed.literal (.append (sealed_literal rfl rfl) h.spelled) rfl rfl rfl).weaken

end Shown

namespace TemplateValue

/-- The field that goes into the template. -/
def field : TemplateValue → String
  | .shown text => text.field
  | .path pathField => pathField

def tokens : TemplateValue → List Token
  | .shown text => text.tokens
  | .path pathField => [.word "self", .dot, .word pathField]

def uses : TemplateValue → List Use
  | .shown text => text.uses
  | .path pathField => [.ofSelf pathField]

theorem spelled {v : TemplateValue} (h : IsName v.field) : Spelled v.rust v.tokens := by
  cases v with
  | shown text => exact Shown.spelled h
  | path pathField => exact .append (sealed_literal rfl rfl) h.spelled

theorem relevant_tokens (v : TemplateValue) :
    relevant (v.tokens ++ [Token.mark ',']) = v.uses := by
  match v with
  | .shown (.plain _) => cbv
  | .shown (.terminated _) => cbv
  | .shown (.bounded _) => cbv
  | .path _ => cbv

theorem sealed_line {v : TemplateValue} (h : IsName v.field) :
    Sealed ("            " ++ v.rust ++ ",") (v.tokens ++ [Token.mark ',']) := by
  have hvalue : Spelled ("            " ++ v.rust) v.tokens := (spelled h).indent rfl
  exact .literal hvalue rfl rfl rfl

theorem linesUse {v : TemplateValue} (h : IsName v.field) :
    LinesUse ["            " ++ v.rust ++ ","] v.uses := by
  rw [← relevant_tokens]
  exact .line (sealed_line h) (closed_mark _ _)

end TemplateValue

namespace Statement

/-- Whether the fields are named by words. -/
def Named : Statement → Prop
  | .resolve pathField field => IsName pathField ∧ IsName field
  | .forget field => IsName field

def uses : Statement → List Use
  | .resolve pathField field =>
    [⟨"event", some pathField, none⟩, ⟨"ctx", some "resolve_fd_path", none⟩,
      ⟨"header", some "pid", some "u32"⟩, ⟨"event", some field, some "u32"⟩]
  | .forget field =>
    [⟨"ctx", some "forget_fd", none⟩, ⟨"header", some "pid", some "u32"⟩,
      ⟨"event", some field, some "u32"⟩]

def tokens : Statement → List Token
  | .resolve pathField field =>
    [.word "event", .dot, .word pathField, .mark '=', .word "ctx", .dot, .word "resolve_fd_path",
      .mark '(', .word "header", .dot, .word "pid", .word "as", .word "u32", .mark ',',
      .word "event", .dot, .word field, .word "as", .word "u32", .mark ')', .mark ';']
  | .forget field =>
    [.word "ctx", .dot, .word "forget_fd", .mark '(', .word "header", .dot, .word "pid",
      .word "as", .word "u32", .mark ',', .word "event", .dot, .word field, .word "as",
      .word "u32", .mark ')', .mark ';']

set_option maxRecDepth 1000 in
theorem sealed {s : Statement} (h : s.Named) : Sealed s.rust s.tokens := by
  cases s with
  | resolve pathField field =>
    have hpath : Spelled ("event." ++ pathField) [.word "event", .dot, .word pathField] :=
      .append (sealed_literal rfl rfl) h.1.spelled
    have hcall : Sealed ("event." ++ pathField ++
        " = ctx.resolve_fd_path(header.pid as u32, event.") _ :=
      .literal hpath rfl rfl rfl
    exact .literal (.append hcall h.2.spelled) rfl rfl rfl
  | forget field => exact .literal (.append (sealed_literal rfl rfl) h.spelled) rfl rfl rfl

theorem relevant_tokens (s : Statement) : relevant s.tokens = s.uses := by
  cases s <;> cbv

theorem closed_tokens (s : Statement) : Closed s.tokens := by
  cases s <;> rfl

theorem linesUse {s : Statement} (h : s.Named) : LinesUse ["        " ++ s.rust] s.uses := by
  have hline : Sealed ("        " ++ s.rust) s.tokens :=
    .append (sealed_blanks rfl) (sealed h)
  rw [← relevant_tokens]
  exact .line hline s.closed_tokens

end Statement

/-! ## Arguments -/

/-- A number is no name of an argument: those start with letters. -/
theorem repr_not_argument (n : Nat) : n.repr ∉ argumentNames := by
  have hletters : ∀ name ∈ argumentNames, name.toList.head?.map Char.isDigit = some false := by
    decide
  intro h
  obtain ⟨c, hc, hnot⟩ := Option.map_eq_some_iff.mp (hletters _ h)
  have hmem : c ∈ Nat.toDigits 10 n := by
    rw [← Nat.toList_repr]
    exact List.mem_of_mem_head? hc
  rw [Nat.isDigit_of_mem_toDigits (by omega) (by omega) hmem] at hnot
  cases hnot

theorem isName_repr (n : Nat) : IsName n.repr := by
  refine ⟨isWord_repr n, ?_⟩
  intro h
  have hnil := String.toList_eq_nil_iff.mpr h
  rw [Nat.toList_repr] at hnil
  exact Text.Digits.toDigits_ne_nil (by omega) n hnil

/-- The tokens of an argument by its position, behind the position and a mark. -/
def armTokens (s : Shown) : List Token :=
  [Token.mark '>', .word "Ok", .mark '('] ++ s.tokens ++
    [Token.dot, .word "to_string", .mark '(', .mark ')', .mark ')', .mark ',']

theorem relevant_armTokens (s : Shown) : relevant (armTokens s) = s.uses := by
  cases s <;> cbv

theorem closed_armTokens (s : Shown) : Closed (armTokens s) := by
  cases s <;> rfl

theorem linesUse_arm {s : Shown} (h : IsName s.field) (position : Nat) :
    LinesUse ["            " ++ toString position ++ " => Ok(" ++ s.rust ++ ".to_string()),"]
      s.uses := by
  have hposition : Spelled ("            " ++ position.repr) [.word position.repr] :=
    (isName_repr position).spelled.indent rfl
  have hfront : Sealed ("            " ++ position.repr ++ " => Ok(")
      [.word position.repr, .mark '=', .mark '>', .word "Ok", .mark '('] :=
    .literal hposition rfl rfl rfl
  have hshown : Spelled ("            " ++ position.repr ++ " => Ok(" ++ s.rust)
      ([Token.word position.repr, .mark '=', .mark '>', .word "Ok", .mark '('] ++ s.tokens) :=
    .append hfront (Shown.spelled h)
  have hline : Sealed ("            " ++ position.repr ++ " => Ok(" ++ s.rust ++ ".to_string()),")
      ([Token.word position.repr, .mark '='] ++ armTokens s) :=
    .literal hshown rfl rfl rfl
  rw [← relevant_armTokens, ← relevant_word (repr_not_argument position) '=']
  exact .line hline (closed_append (closed_armTokens s) [_, _])

namespace ArgEntry

/-- Whether the name and the fields are named by words. -/
def Named : ArgEntry → Prop
  | .quoted name text => IsWord name ∧ IsName text.field
  | .withPath name text pathField => IsWord name ∧ IsName text.field ∧ IsName pathField
  | .plain name text => IsWord name ∧ IsName text.field

def uses : ArgEntry → List Use
  | .quoted _ text => text.uses
  | .withPath _ text pathField => text.uses ++ [.ofSelf pathField]
  | .plain _ text => text.uses

def tokens : ArgEntry → List Token
  | .quoted name text =>
    [Token.mark '(', .literal name, .mark ',', .word "format", .mark '!', .mark '(',
      .literal Display.quoted.placeholders, .mark ','] ++ text.tokens ++
      [Token.mark ')', .mark ')', .mark ',']
  | .withPath name text pathField =>
    [Token.mark '(', .literal name, .mark ',', .word "format", .mark '!', .mark '(',
      .literal Display.withPath.placeholders, .mark ','] ++ text.tokens ++
      [Token.mark ',', .word "self", .dot, .word pathField, .mark ')', .mark ')', .mark ',']
  | .plain name text =>
    [Token.mark '(', .literal name, .mark ','] ++ text.tokens ++
      [Token.dot, .word "to_string", .mark '(', .mark ')', .mark ')', .mark ',']

theorem relevant_tokens (e : ArgEntry) : relevant e.tokens = e.uses := by
  match e with
  | .quoted _ (.plain _) => cbv
  | .quoted _ (.terminated _) => cbv
  | .quoted _ (.bounded _) => cbv
  | .withPath _ (.plain _) _ => cbv
  | .withPath _ (.terminated _) _ => cbv
  | .withPath _ (.bounded _) _ => cbv
  | .plain _ (.plain _) => cbv
  | .plain _ (.terminated _) => cbv
  | .plain _ (.bounded _) => cbv

theorem closed_tokens (e : ArgEntry) : Closed e.tokens := by
  have hcall : Closed [Token.mark ')', .mark ')', .mark ','] := rfl
  have hpath (field : String) : Closed
      [Token.mark ',', .word "self", .dot, .word field, .mark ')', .mark ')', .mark ','] := rfl
  have hmethod : Closed
      [Token.dot, .word "to_string", .mark '(', .mark ')', .mark ')', .mark ','] := rfl
  cases e with
  | quoted name text => exact closed_append hcall _
  | withPath name text pathField => exact closed_append (hpath pathField) _
  | plain name text => exact closed_append hmethod _

/-- What stands before the values that are formatted. -/
theorem sealed_format {name : String} (h : IsWord name) (display : Display) :
    Sealed ("(" ++ Text.Quoted.quote name ++ ", format!(\"" ++ display.placeholders ++ "\", ")
      [.mark '(', .literal name, .mark ',', .word "format", .mark '!', .mark '(',
        .literal display.placeholders, .mark ','] := by
  have hname : Sealed ("(" ++ Text.Quoted.quote name) [.mark '(', .literal name] :=
    .append (sealed_literal rfl rfl) h.isPlain.quote
  have hcall : Sealed (", format!(\"" ++ (display.placeholders ++ "\", "))
      [.mark ',', .word "format", .mark '!', .mark '(', .literal display.placeholders,
        .mark ','] := by
    cases display with
    | quoted =>
      have htext : ", format!(\"" ++ (Display.quoted.placeholders ++ "\", ") =
          ", format!(\"\x7b:?\x7d\", " := by decide
      rw [htext]
      exact sealed_literal rfl rfl
    | withPath =>
      have htext : ", format!(\"" ++ (Display.withPath.placeholders ++ "\", ") =
          ", format!(\"\x7b\x7d<\x7b\x7d>\", " := by decide
      rw [htext]
      exact sealed_literal rfl rfl
    | plain =>
      have htext : ", format!(\"" ++ (Display.plain.placeholders ++ "\", ") =
          ", format!(\"\x7b\x7d\", " := by decide
      rw [htext]
      exact sealed_literal rfl rfl
  rw [String.append_assoc, String.append_assoc]
  exact hname.append hcall

theorem sealed {e : ArgEntry} (h : e.Named) : Sealed e.rust e.tokens := by
  cases e with
  | quoted name text =>
    exact .literal (.append (sealed_format h.1 .quoted) (Shown.spelled h.2)) rfl rfl rfl
  | withPath name text pathField =>
    have htext := Spelled.append (sealed_format h.1 .withPath) (Shown.spelled h.2.1)
    have hself : Sealed ("(" ++ Text.Quoted.quote name ++ ", format!(\"" ++
        Display.withPath.placeholders ++ "\", " ++ text.rust ++ ", self.")
        (_ ++ [Token.mark ',', .word "self", .dot]) := .literal htext rfl rfl rfl
    have hpath := Spelled.append hself h.2.2.spelled
    have hline : Sealed (withPath name text pathField).rust
        (_ ++ [Token.mark ')', .mark ')', .mark ',']) := .literal hpath rfl rfl rfl
    simpa only [tokens, List.append_assoc, List.cons_append, List.nil_append] using hline
  | plain name text =>
    have hname : Sealed ("(" ++ Text.Quoted.quote name ++ ", ")
        [.mark '(', .literal name, .mark ','] :=
      .append (.append (sealed_literal rfl rfl) h.1.isPlain.quote) (sealed_literal rfl rfl)
    exact .literal (.append hname (Shown.spelled h.2)) rfl rfl rfl

theorem linesUse {e : ArgEntry} (h : e.Named) : LinesUse ["            " ++ e.rust] e.uses := by
  have hline : Sealed ("            " ++ e.rust) e.tokens :=
    .append (sealed_blanks rfl) (sealed h)
  rw [← relevant_tokens]
  exact .line hline e.closed_tokens

end ArgEntry

/-! ## Exports -/

namespace Export

def tokens : Export → List Token
  | .copied field =>
    [.word field, .colon, .word "self", .dot, .word field, .dot, .word "to_vec", .mark '(',
      .mark ')', .mark ',']
  | .converted field =>
    [.word field, .colon, .word "self", .dot, .word field, .dot, .word "into", .mark '(',
      .mark ')', .mark ',']

theorem relevant_tokens (e : Export) : relevant e.tokens = [.ofSelf e.field] := by
  cases e <;> cbv

theorem closed_tokens (e : Export) : Closed e.tokens := by
  cases e <;> rfl

theorem sealed {e : Export} (h : IsName e.field) : Sealed e.rust e.tokens := by
  have hsource {field : String} (h : IsName field) : Spelled (field ++ ": self." ++ field)
      [.word field, .colon, .word "self", .dot, .word field] :=
    .append (.literal h.spelled rfl rfl rfl) h.spelled
  cases e with
  | copied field => exact .literal (hsource h) rfl rfl rfl
  | converted field => exact .literal (hsource h) rfl rfl rfl

theorem linesUse {e : Export} (h : IsName e.field) :
    LinesUse ["                " ++ e.rust] [.ofSelf e.field] := by
  have hline : Sealed ("                " ++ e.rust) e.tokens :=
    .append (sealed_blanks rfl) (sealed h)
  rw [← relevant_tokens]
  exact .line hline e.closed_tokens

end Export

/-! ## Initials -/

namespace Initial

def tokens : Initial → List Token
  | .read .char => [.word "read_buffer", .mark '(', .word "payload", .mark ')']
  | .read .s32 => [.word "payload", .dot, .word "get_i32_ne", .mark '(', .mark ')']
  | .read .u32 => [.word "payload", .dot, .word "get_u32_ne", .mark '(', .mark ')']
  | .read .s64 => [.word "payload", .dot, .word "get_i64_ne", .mark '(', .mark ')']
  | .read .u64 => [.word "payload", .dot, .word "get_u64_ne", .mark '(', .mark ')']
  | .emptyText => [.word "String", .colon, .colon, .word "new", .mark '(', .mark ')']

theorem sealed (initial : Initial) : Sealed initial.rust initial.tokens := by
  match initial with
  | .read .char => exact sealed_literal rfl rfl
  | .read .s32 => exact sealed_literal rfl rfl
  | .read .u32 => exact sealed_literal rfl rfl
  | .read .s64 => exact sealed_literal rfl rfl
  | .read .u64 => exact sealed_literal rfl rfl
  | .emptyText => exact sealed_literal rfl rfl

/-- What a field is filled with does not use the event, nor does the label that names it. -/
theorem relevant_tokens (initial : Initial) (label : String) :
    relevant ([Token.word label, .colon] ++ initial.tokens ++ [Token.mark ',']) = [] := by
  match initial with
  | .read .char => cbv
  | .read .s32 => cbv
  | .read .u32 => cbv
  | .read .s64 => cbv
  | .read .u64 => cbv
  | .emptyText => cbv

end Initial

/-! ## The functions of a decoder -/

namespace DecoderTree

/-- A decoder with words for the names of fields and types, none of which is named like an
argument. -/
structure Named (t : DecoderTree) : Prop where
  typeName : IsName t.typeName ∧ t.typeName ∉ argumentNames
  message : IsName t.message ∧ t.message ∉ argumentNames
  initials : ∀ initial ∈ t.initials, IsName initial.1
  resolutions : ∀ s ∈ t.resolutions, s.Named
  forgets : ∀ s ∈ t.forgets, s.Named
  labels : ∀ argument ∈ t.template, IsWord argument.1
  values : ∀ v ∈ t.values, IsName v.field
  arms : ∀ arm ∈ t.arms, IsName arm.2.field
  entries : ∀ e ∈ t.entries, e.Named
  exports : ∀ e ∈ t.exports, IsName e.field

variable {t : DecoderTree}

theorem linesUse_initial {name : String} (h : IsName name) (initial : Initial) :
    LinesUse ["            " ++ name ++ ": " ++ initial.rust ++ ","] [] := by
  have hname : Spelled ("            " ++ name) [.word name] := h.spelled.indent rfl
  have hlabel : Sealed ("            " ++ name ++ ": ") [.word name, .colon] :=
    .literal hname rfl rfl rfl
  have hline : Sealed ("            " ++ name ++ ": " ++ initial.rust ++ ",")
      ([Token.word name, .colon] ++ initial.tokens ++ [Token.mark ',']) :=
    .append (.append hlabel initial.sealed) (sealed_literal rfl rfl)
  rw [← initial.relevant_tokens name]
  exact .line hline (closed_mark _ _)

theorem isPlain_templateText {template : List (String × Display)}
    (h : ∀ argument ∈ template, IsWord argument.1) : IsPlain (templateText template) := by
  have hblank : IsPlain " " := .of_all (by decide)
  have hplaceholders (display : Display) : IsPlain display.placeholders := by
    cases display <;> exact .of_all (by decide)
  induction template with
  | nil => exact fun c hc => absurd hc (by simp [templateText])
  | cons argument template ih =>
    obtain ⟨hlabel, htemplate⟩ := List.forall_mem_cons.mp h
    rw [templateText, List.map_cons, String.join_cons]
    exact (((hlabel.isPlain.append hblank).append (hplaceholders _)).append hblank).append
      (ih htemplate)

theorem sealed_template (h : t.Named) :
    Sealed ("            " ++ Text.Quoted.quote (templateText t.template) ++ ",")
      [.literal (templateText t.template), .mark ','] :=
  .append (.append (sealed_blanks rfl) (isPlain_templateText h.labels).quote)
    (sealed_literal rfl rfl)

theorem linesUse_template (h : t.Named) :
    LinesUse ["            " ++ Text.Quoted.quote (templateText t.template) ++ ","] [] :=
  .line (sealed_template h) rfl

theorem linesUse_variant (h : t.Named) :
    LinesUse ["            event: Some(metric::Event::" ++ t.typeName ++ "(" ++ t.message ++
      " \x7b"] [] := by
  have hfront : Sealed "            event: Some(metric::Event::" [.word "event", .colon,
      .word "Some", .mark '(', .word "metric", .colon, .colon, .word "Event", .colon, .colon] :=
    sealed_literal rfl rfl
  have htype : Sealed ("            event: Some(metric::Event::" ++ t.typeName ++ "(") (_ ++
      [Token.mark '(']) := .literal (.append hfront h.typeName.1.spelled) rfl rfl rfl
  have hline : Sealed ("            event: Some(metric::Event::" ++ t.typeName ++ "(" ++
      t.message ++ " \x7b") (_ ++ [Token.mark '\x7b']) :=
    .literal (.append htype h.message.1.spelled) rfl rfl rfl
  have hsome : Use.isRelevant ⟨"Some", none, none⟩ = false := by decide
  have hnames : Use.isRelevant ⟨t.typeName, none, none⟩ = false ∧
      Use.isRelevant ⟨t.message, none, none⟩ = false := by
    simp [Use.isRelevant, h.typeName.2, h.message.2]
  have huses := LinesUse.line hline (closed_mark _ _)
  refine ⟨huses.1, huses.2.trans ?_⟩
  show List.filter Use.isRelevant
    [⟨"Some", none, none⟩, ⟨t.typeName, none, none⟩, ⟨t.message, none, none⟩] = []
  simp [hsome, hnames]

set_option maxRecDepth 1000 in
theorem linesUse_decode (h : t.Named) : LinesUse t.decodeBody
    (t.resolutions.flatMap Statement.uses ++ t.forgets.flatMap Statement.uses) := by
  have hguard : LinesUse ["        ensure_payload(Self::NAME, payload, Self::PAYLOAD_SIZE)?;", "",
      "        let " ++ (if t.usesHeader then "mut event" else "event") ++ " = Self \x7b"] [] := by
    cases t.usesHeader <;> decide +kernel
  have hinitials := LinesUse.map fun initial hinitial =>
    linesUse_initial (h.initials initial hinitial) initial.2
  have hmiddle : LinesUse (["        \x7d;"] ++ if t.usesHeader then [""] else []) [] := by
    cases t.usesHeader <;> decide
  have hresolutions := LinesUse.map fun s hs => Statement.linesUse (h.resolutions s hs)
  have hforgets := LinesUse.map fun s hs => Statement.linesUse (h.forgets s hs)
  have hend : LinesUse ["", "        Ok(event)"] [] := by decide
  have hall := hguard.append (hinitials.append (hmiddle.append (hresolutions.append
    (hforgets.append hend))))
  have hnone : (t.initials.flatMap fun _ => ([] : List Use)) = [] :=
    List.flatMap_eq_nil_iff.mpr fun _ _ => rfl
  simpa only [decodeBody, hnone, List.append_assoc, List.nil_append, List.append_nil] using hall

theorem linesUse_render (h : t.Named) :
    LinesUse t.renderBody (t.values.flatMap TemplateValue.uses) := by
  have hopening : LinesUse ["        format!("] [] := by decide
  have hvalues := LinesUse.map fun v hv => TemplateValue.linesUse (h.values v hv)
  have hend : LinesUse ["        )"] [] := by decide
  have hall := hopening.append ((linesUse_template h).append (hvalues.append hend))
  simpa only [renderBody, List.append_assoc, List.nil_append, List.append_nil,
    List.cons_append] using hall

theorem linesUse_args (h : t.Named) :
    LinesUse t.argsBody (t.entries.flatMap ArgEntry.uses) := by
  have hopening : LinesUse ["        vec!["] [] := by decide
  have hentries := LinesUse.map fun e he => ArgEntry.linesUse (h.entries e he)
  have hend : LinesUse ["        ]"] [] := by decide
  have hall := hopening.append (hentries.append hend)
  simpa only [argsBody, List.append_assoc, List.nil_append, List.append_nil,
    List.cons_append] using hall

theorem linesUse_argBody (h : t.Named) :
    LinesUse t.argBody (t.arms.flatMap fun arm => arm.2.uses) := by
  have hopening : LinesUse ["        match n \x7b"] [] := by decide
  have harms := LinesUse.map fun arm harm => linesUse_arm (h.arms arm harm) arm.1
  have hend : LinesUse ["            _ => Err(ArgError::OutOfRange \x7b",
      "                event: Self::NAME,", "                index: n,", "            \x7d),",
      "        \x7d"] [] := by decide
  have hall := hopening.append (harms.append hend)
  simpa only [argBody, List.append_assoc, List.nil_append, List.append_nil,
    List.cons_append] using hall

theorem linesUse_metric (h : t.Named) :
    LinesUse t.metricBody (t.exports.flatMap fun e => [.ofSelf e.field]) := by
  have hopening : LinesUse ["        Some(Metric \x7b"] [] := by decide
  have hexports := LinesUse.map fun e he => Export.linesUse (h.exports e he)
  have hend : LinesUse ["            \x7d)),", "            ..Default::default()", "        \x7d)"]
      [] := by
    decide
  have hall := hopening.append ((linesUse_variant h).append (hexports.append hend))
  simpa only [metricBody, List.append_assoc, List.nil_append, List.append_nil,
    List.cons_append] using hall

/-! ## Signatures -/

/-- The body of a function, from its brace on. -/
def bodyTokens (lines : List String) : List Token :=
  .mark '{' :: (lines.map tokens).flatten

/-- A function of which the first lines have the given tokens, up to a brace. -/
theorem partText_append {opening : String} {lines : List String} {front : List Token}
    (hfront : tokens opening ++ (lines.map tokens).flatten = front ++ [Token.mark '{'])
    (hbrace : .mark '{' ∉ front) (body : List String) :
    partText (opening, lines ++ body) = ⟨front, bodyTokens body⟩ := by
  have htokens : tokens opening ++ ((lines ++ body).map tokens).flatten =
      front ++ .mark '{' :: (body.map tokens).flatten := by
    rw [List.map_append, List.flatten_append, ← List.append_assoc, hfront, List.append_assoc]
    rfl
  rw [partText, htokens, FunctionText.ofTokens_append hbrace, bodyTokens]

theorem partText_eq {opening : String} {front : List Token}
    (hfront : tokens opening = front ++ [Token.mark '{']) (hbrace : .mark '{' ∉ front)
    (body : List String) : partText (opening, body) = ⟨front, bodyTokens body⟩ := by
  have hlines : tokens opening ++ (([] : List String).map tokens).flatten =
      front ++ [Token.mark '{'] := by
    rw [hfront]
    exact List.append_nil _
  exact partText_append hlines hbrace body

/-- What stands before the body of the decoding function. -/
def decodeFront (header ctx : Bool) : List Token := [
  .word "pub", .word "fn", .word "decode", .mark '(',
  .word (binder header "header"), .colon, .mark '&', .word "Header", .mark ',',
  .word "payload", .colon, .mark '&', .word "mut", .mark '&', .mark '[', .word "u8", .mark ']',
  .mark ',', .word (binder ctx "ctx"), .colon, .mark '&', .word "Context", .mark ',',
  .mark ')', .mark '-', .mark '>', .word "Result", .mark '<', .word "Self", .mark ',',
  .word "DecodeError", .mark '>']

/-- What stands before the body of the function that shows all of an event. -/
def renderFront (ret : Bool) : List Token := [
  .word "fn", .word "render", .mark '(', .mark '&', .word "self", .mark ',',
  .word (binder ret "ret"), .colon, .word "i64", .mark ')', .mark '-', .mark '>', .word "String"]

/-- What stands before the body of the function that gives one argument. -/
def argFront (ret : Bool) : List Token := [
  .word "fn", .word "arg", .mark '(', .mark '&', .word "self", .mark ',', .word "n", .colon,
  .word "usize", .mark ',', .word (binder ret "ret"), .colon, .word "i64", .mark ')', .mark '-',
  .mark '>', .word "Result", .mark '<', .word "String", .mark ',', .word "ArgError", .mark '>']

/-- What stands before the body of the function that lists the arguments. -/
def argsFront (ret : Bool) : List Token := [
  .word "fn", .word "args", .mark '(', .mark '&', .word "self", .mark ',',
  .word (binder ret "ret"), .colon, .word "i64", .mark ')', .mark '-', .mark '>', .word "Vec",
  .mark '<', .mark '(', .mark '&', .mark '\'', .word "static", .word "str", .mark ',',
  .word "String", .mark ')', .mark '>']

/-- What stands before the body of the function that exports an event. -/
def metricFront : List Token := [
  .word "fn", .word "metric", .mark '(', .mark '&', .word "self", .mark ')', .mark '-', .mark '>',
  .word "Option", .mark '<', .word "Metric", .mark '>']

theorem functions_text (t : DecoderTree) : t.text.functions = [
    ⟨decodeFront t.usesHeader t.usesContext, bodyTokens t.decodeBody⟩,
    ⟨renderFront t.usesReturn, bodyTokens t.renderBody⟩,
    ⟨argFront t.usesReturn, bodyTokens t.argBody⟩,
    ⟨argsFront t.usesReturn, bodyTokens t.argsBody⟩,
    ⟨metricFront, bodyTokens t.metricBody⟩] := by
  have hdecode : ∀ header ctx : Bool, tokens "    pub fn decode(" ++
      ([ "        " ++ binder header "header" ++ ": &Header,", "        payload: &mut &[u8],",
        "        " ++ binder ctx "ctx" ++ ": &Context,",
        "    ) -> Result<Self, DecodeError> \x7b"].map tokens).flatten =
      decodeFront header ctx ++ [Token.mark '{'] := by
    decide +kernel
  have hrender : ∀ ret : Bool, tokens ("    fn render(&self, " ++ binder ret "ret" ++
      ": i64) -> String \x7b") = renderFront ret ++ [Token.mark '{'] := by
    decide +kernel
  have harg : ∀ ret : Bool, tokens ("    fn arg(&self, n: usize, " ++ binder ret "ret" ++
      ": i64) -> Result<String, ArgError> \x7b") = argFront ret ++ [Token.mark '{'] := by
    decide +kernel
  have hargs : ∀ ret : Bool, tokens ("    fn args(&self, " ++ binder ret "ret" ++
      ": i64) -> Vec<(&'static str, String)> \x7b") = argsFront ret ++ [Token.mark '{'] := by
    decide +kernel
  have hmetric : tokens "    fn metric(&self) -> Option<Metric> \x7b" =
      metricFront ++ [Token.mark '{'] := by
    decide +kernel
  have htexts : t.text.functions = [
      partText ("    pub fn decode(", t.decodeSignature ++ t.decodeBody),
      partText (t.renderOpening, t.renderBody), partText (t.argOpening, t.argBody),
      partText (t.argsOpening, t.argsBody),
      partText ("    fn metric(&self) -> Option<Metric> \x7b", t.metricBody)] := rfl
  have hdecodeText : partText ("    pub fn decode(", t.decodeSignature ++ t.decodeBody) = _ :=
    partText_append (hdecode t.usesHeader t.usesContext) (by simp [decodeFront]) _
  have hrenderText : partText (t.renderOpening, t.renderBody) = _ :=
    partText_eq (hrender t.usesReturn) (by simp [renderFront]) _
  have hargText : partText (t.argOpening, t.argBody) = _ :=
    partText_eq (harg t.usesReturn) (by simp [argFront]) _
  have hargsText : partText (t.argsOpening, t.argsBody) = _ :=
    partText_eq (hargs t.usesReturn) (by simp [argsFront]) _
  have hmetricText := partText_eq hmetric (by simp [metricFront]) t.metricBody
  rw [htexts, hdecodeText, hrenderText, hargText, hargsText, hmetricText]

end DecoderTree

/-! ## What functions use -/

/-- What matters of a function: its name, the names of its arguments, and what its body uses. -/
structure Account where
  name : Option Token
  bound : List String
  uses : List Use
  deriving DecidableEq, Repr

/-- What matters of the text of a function. -/
def FunctionText.account (f : FunctionText) : Account :=
  ⟨f.name?, binders f.signature, relevant f.body⟩

namespace DecoderTree

variable {t : DecoderTree}

/-- What matters of the functions of a decoder. -/
def accounts (t : DecoderTree) : List Account := [
  ⟨some (.word "decode"),
    [binder t.usesHeader "header", "payload", binder t.usesContext "ctx"],
    t.resolutions.flatMap Statement.uses ++ t.forgets.flatMap Statement.uses⟩,
  ⟨some (.word "render"), [binder t.usesReturn "ret"], t.values.flatMap TemplateValue.uses⟩,
  ⟨some (.word "arg"), ["n", binder t.usesReturn "ret"], t.arms.flatMap fun arm => arm.2.uses⟩,
  ⟨some (.word "args"), [binder t.usesReturn "ret"], t.entries.flatMap ArgEntry.uses⟩,
  ⟨some (.word "metric"), [], t.exports.flatMap fun e => [.ofSelf e.field]⟩]

/-- **What the functions of a decoder use**, as it is read off their texts. -/
theorem accounts_text (h : t.Named) : t.text.functions.map FunctionText.account = t.accounts := by
  have hbody {lines : List String} {us : List Use} (h : LinesUse lines us) :
      relevant (bodyTokens lines) = us := h.relevant_flatten
  simp only [functions_text, List.map_cons, List.map_nil, FunctionText.account,
    hbody (linesUse_decode h), hbody (linesUse_render h), hbody (linesUse_argBody h),
    hbody (linesUse_args h), hbody (linesUse_metric h)]
  rfl

end DecoderTree

end Tracepoint.Artifact
