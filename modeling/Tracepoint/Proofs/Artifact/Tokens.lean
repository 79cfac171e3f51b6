import Mathlib
import Tracepoint.Proofs.Artifact.Words

/-!
# Tokens of source lines

A line of generated source falls into words, texts between double quotes, and marks.  What the
line uses is read off these: a word is a use of a name, unless it is a part of what stands before a
dot, or the label before a colon.

* `tokens` — the tokens of a line;
* `Spelled`, `Sealed` — which tokens a piece of a line has, whatever stands behind it, and how the
  pieces are put together;
* `uses`, `binders` — the names that tokens use, and those that stand before colons;
* `uses_flatten` — lines that end in a mark can be looked at one by one.
-/

set_option autoImplicit false

namespace Tracepoint.Artifact

/-! ## Tokens -/

/-- A token of source text. -/
inductive Token where
  | word (s : String)
  /-- What stands between double quotes, as it is written there. -/
  | literal (s : String)
  | dot
  | colon
  /-- Any other character. -/
  | mark (c : Char)
  deriving DecidableEq, Repr

/-- The token that a character is of its own. -/
def Token.ofChar (c : Char) : Token :=
  if c = '.' then .dot else if c = ':' then .colon else .mark c

/-- What has been read of a token that may go on. -/
inductive Pending where
  | nothing
  | word (cs : List Char)
  | literal (cs : List Char)
  /-- A literal with a backslash at its end. -/
  | escaped (cs : List Char)

namespace Pending

/-- What a character starts that belongs to no token before it. -/
def start (c : Char) : List Token × Pending :=
  if c = '"' then ([], .literal [])
  else if isWordChar c then ([], .word [c])
  else if c.isWhitespace then ([], .nothing)
  else ([.ofChar c], .nothing)

/-- Reads one more character. -/
def step : Pending → Char → List Token × Pending
  | .nothing, c => start c
  | .word cs, c =>
    if isWordChar c then ([], .word (cs ++ [c]))
    else (.word (String.ofList cs) :: (start c).1, (start c).2)
  | .literal cs, c =>
    if c = '"' then ([.literal (String.ofList cs)], .nothing)
    else if c = '\\' then ([], .escaped (cs ++ [c]))
    else ([], .literal (cs ++ [c]))
  | .escaped cs, c => ([], .literal (cs ++ [c]))

/-- The token that is left where the text ends. -/
def last : Pending → List Token
  | .nothing => []
  | .word cs => [.word (String.ofList cs)]
  | .literal cs => [.literal (String.ofList cs)]
  | .escaped cs => [.literal (String.ofList cs)]

/-- The tokens of characters behind what is pending. -/
def tokens : Pending → List Char → List Token
  | q, [] => q.last
  | q, c :: cs => (q.step c).1 ++ tokens (q.step c).2 cs

/-- What is pending after further characters. -/
def after : Pending → List Char → Pending
  | q, [] => q
  | q, c :: cs => after (q.step c).2 cs

end Pending

/-- The tokens of a line. -/
def tokens (line : String) : List Token :=
  Pending.nothing.tokens line.toList

/-! ## Pieces of a line -/

/-- A word that is not empty. -/
structure IsName (s : String) : Prop where
  word : IsWord s
  ne : s ≠ ""

/-- Whether characters go on with something that is no part of a word, if they go on. -/
def Apart (cs : List Char) : Prop :=
  ∀ c ∈ cs.head?, isWordChar c = false

/-- A piece that has the given tokens unless a word at its end goes on behind it. -/
def Spelled (piece : String) (ts : List Token) : Prop :=
  ∀ rest, Apart rest →
    Pending.nothing.tokens (piece.toList ++ rest) = ts ++ Pending.nothing.tokens rest

/-- A piece that has the given tokens, whatever stands behind it. -/
def Sealed (piece : String) (ts : List Token) : Prop :=
  ∀ rest, Pending.nothing.tokens (piece.toList ++ rest) = ts ++ Pending.nothing.tokens rest

namespace Pending

/-- Where nothing is pending, one can stop and start again. -/
theorem tokens_append {q : Pending} {cs : List Char} (h : q.after cs = nothing)
    (rest : List Char) : q.tokens (cs ++ rest) = q.tokens cs ++ nothing.tokens rest := by
  induction cs generalizing q with
  | nil =>
    rw [show q = nothing from h]
    rfl
  | cons c cs ih => rw [List.cons_append, tokens, tokens, ih h, List.append_assoc]

theorem start_word {c : Char} (h : isWordChar c = true) : start c = ([], .word [c]) := by
  have hquote : c ≠ '"' := by
    rintro rfl
    exact absurd h (by decide)
  rw [start, if_neg hquote, if_pos h]

/-- A word goes on up to the first character that is no part of it. -/
theorem tokens_word {cs : List Char} (h : ∀ c ∈ cs, isWordChar c = true) (before : List Char)
    {rest : List Char} (hrest : Apart rest) :
    (word before).tokens (cs ++ rest) =
      .word (String.ofList (before ++ cs)) :: nothing.tokens rest := by
  induction cs generalizing before with
  | nil =>
    rw [List.nil_append, List.append_nil]
    cases rest with
    | nil => rfl
    | cons c rest =>
      have hc : isWordChar c = false := hrest c rfl
      simp [tokens, step, hc]
  | cons c cs ih =>
    obtain ⟨hc, hcs⟩ := List.forall_mem_cons.mp h
    rw [List.cons_append, tokens, step, if_pos hc, List.nil_append, ih hcs, List.append_assoc]
    rfl

/-- A literal without quotes and backslashes in it goes on up to the next quote. -/
theorem tokens_literal {cs : List Char} (hquote : '"' ∉ cs) (hbackslash : '\\' ∉ cs)
    (before rest : List Char) :
    (literal before).tokens (cs ++ '"' :: rest) =
      .literal (String.ofList (before ++ cs)) :: nothing.tokens rest := by
  induction cs generalizing before with
  | nil => simp [tokens, step]
  | cons c cs ih =>
    rw [List.mem_cons, not_or] at hquote hbackslash
    rw [List.cons_append, tokens, step, if_neg (Ne.symm hquote.1), if_neg (Ne.symm hbackslash.1),
      List.nil_append, ih hquote.2 hbackslash.2, List.append_assoc]
    rfl

end Pending

theorem IsName.spelled {name : String} (h : IsName name) : Spelled name [.word name] := by
  intro rest hrest
  cases hcs : name.toList with
  | nil => exact absurd (String.toList_eq_nil_iff.mp hcs) h.ne
  | cons c cs =>
    have hword : ∀ d ∈ c :: cs, isWordChar d = true := hcs ▸ h.word
    obtain ⟨hc, hcs'⟩ := List.forall_mem_cons.mp hword
    have hname : String.ofList ([c] ++ cs) = name := by
      rw [List.singleton_append, ← hcs, String.ofList_toList]
    rw [List.cons_append, Pending.tokens, Pending.step, Pending.start_word hc, List.nil_append,
      Pending.tokens_word hcs' [c] hrest, hname]
    rfl

/-- A constant piece seals itself if no word and no literal is open at its end. -/
theorem sealed_literal {cs : List Char} {ts : List Token}
    (h : Pending.nothing.after cs = .nothing) (hts : Pending.nothing.tokens cs = ts) :
    Sealed (String.ofList cs) ts := by
  intro rest
  rw [String.toList_ofList, Pending.tokens_append h, hts]

theorem sealed_blanks {cs : List Char} (h : cs.all (· = ' ') = true) :
    Sealed (String.ofList cs) [] := by
  intro rest
  have hblank : Pending.step .nothing ' ' = ([], .nothing) := rfl
  rw [String.toList_ofList]
  induction cs with
  | nil => rfl
  | cons c cs ih =>
    rw [List.all_cons, Bool.and_eq_true, decide_eq_true_eq] at h
    rw [List.cons_append, Pending.tokens, h.1, hblank, List.nil_append]
    exact ih h.2

section Pieces

variable {a b : String} {ts us : List Token}

theorem Sealed.weaken (h : Sealed a ts) : Spelled a ts :=
  fun rest _ => h rest

theorem Sealed.append (ha : Sealed a ts) (hb : Sealed b us) : Sealed (a ++ b) (ts ++ us) := by
  intro rest
  rw [String.toList_append, List.append_assoc, ha, hb, List.append_assoc]

theorem Spelled.append (ha : Sealed a ts) (hb : Spelled b us) : Spelled (a ++ b) (ts ++ us) := by
  intro rest hrest
  rw [String.toList_append, List.append_assoc, ha, hb rest hrest, List.append_assoc]

/-- Blanks before a piece make no difference. -/
theorem Spelled.indent {cs : List Char} (h : Spelled a ts) (hcs : cs.all (· = ' ') = true) :
    Spelled (String.ofList cs ++ a) ts :=
  .append (sealed_blanks hcs) h

/-- The constant piece behind a word seals it, if it starts with something else. -/
theorem Sealed.literal (ha : Spelled a ts) {cs : List Char}
    (hapart : cs.head?.map isWordChar = some false) (h : Pending.nothing.after cs = .nothing)
    (hus : Pending.nothing.tokens cs = us) : Sealed (a ++ String.ofList cs) (ts ++ us) := by
  intro rest
  have hrest : Apart (cs ++ rest) := by
    cases cs with
    | nil => cases hapart
    | cons c cs =>
      intro d hd
      rw [List.cons_append, List.head?_cons, Option.mem_some_iff] at hd
      rw [← hd]
      exact Option.some.inj hapart
  rw [String.toList_append, String.toList_ofList, List.append_assoc, ha _ hrest,
    Pending.tokens_append h, hus, List.append_assoc]

theorem Spelled.tokens_eq (h : Spelled a ts) : tokens a = ts := by
  have hend := h [] (by simp [Apart])
  rwa [List.append_nil, Pending.tokens, Pending.last, List.append_nil] at hend

theorem Sealed.tokens_eq (h : Sealed a ts) : tokens a = ts :=
  h.weaken.tokens_eq

end Pieces

/-! ## Quoted texts -/

/-- A text that is quoted as it is. -/
def IsPlain (s : String) : Prop :=
  ∀ c ∈ s.toList, Text.Quoted.escape c = [c]

/-- Whether a character is one of ASCII that is printed, other than those that end a quoted text or
escape what follows them there. -/
def isPlainChar (c : Char) : Bool :=
  0x20 ≤ c.toNat && c.toNat < 0x7f && c ≠ '"' && c ≠ '\\'

/-- No range of the tables of special characters has such a character in it. -/
theorem escape_of_isPlainChar {c : Char} (h : isPlainChar c = true) :
    Text.Quoted.escape c = [c] := by
  have hunprintable : ∀ r ∈ Text.unprintableRanges, r.2 < 0x20 ∨ 0x7f ≤ r.1 := by decide +kernel
  have hextend : ∀ r ∈ Text.graphemeExtendRanges, 0x7f ≤ r.1 := by decide +kernel
  have hfillers : ∀ filler ∈ Text.Quoted.fillers, 0x7f ≤ filler.toNat := by
    simp [Text.Quoted.fillers]
  simp only [isPlainChar, Bool.and_eq_true, decide_eq_true_eq] at h
  obtain ⟨⟨⟨hlow, hhigh⟩, hquote⟩, hbackslash⟩ := h
  have hprintable : Text.isPrintable c = true := by
    refine List.all_eq_true.mpr fun r hr => ?_
    have hrange := hunprintable r hr
    simp only [Bool.or_eq_true, decide_eq_true_eq]
    omega
  have hattaches : Text.isGraphemeExtend c = false := by
    refine List.any_eq_false.mpr fun r hr => ?_
    have hrange := hextend r hr
    simp only [Bool.and_eq_true, decide_eq_true_eq, not_and]
    omega
  have hvisible : c ∉ Text.Quoted.fillers := by
    intro hmem
    have hrange := hfillers c hmem
    omega
  have hcontrol (d : Char) (hd : d.toNat < 0x20) : c ≠ d := by
    rintro rfl
    omega
  rw [Text.Quoted.escape, if_neg (hcontrol _ (by decide)), if_neg (hcontrol _ (by decide)),
    if_neg (hcontrol _ (by decide)), if_neg (hcontrol _ (by decide)), if_neg hquote,
    if_neg hbackslash, if_neg]
  simp [Text.Quoted.attaches, Text.Quoted.isVisible, hprintable, hattaches, hvisible]

theorem IsPlain.of_all {s : String} (h : s.toList.all isPlainChar = true) : IsPlain s :=
  fun c hc => escape_of_isPlainChar (List.all_eq_true.mp h c hc)

theorem isPlainChar_wordChar : ∀ n < 128, isWordChar (Char.ofNat n) = true →
    isPlainChar (Char.ofNat n) = true := by
  decide +kernel

theorem isWordChar_lt {c : Char} (h : isWordChar c = true) : c.toNat < 128 := by
  simp only [isWordChar, Char.isAlphanum, Char.isAlpha, Char.isUpper, Char.isLower, Char.isDigit,
    Bool.or_eq_true, Bool.and_eq_true, decide_eq_true_eq] at h
  rcases h with (((⟨-, h⟩ | ⟨-, h⟩) | ⟨-, h⟩) | rfl) | rfl
  · exact Nat.lt_of_le_of_lt h (by decide)
  · exact Nat.lt_of_le_of_lt h (by decide)
  · exact Nat.lt_of_le_of_lt h (by decide)
  · decide
  · decide

theorem IsWord.isPlain {word : String} (h : IsWord word) : IsPlain word := by
  intro c hc
  have hword := h c hc
  have hplain := isPlainChar_wordChar c.toNat (isWordChar_lt hword)
  rw [Char.ofNat_toNat] at hplain
  exact escape_of_isPlainChar (hplain hword)

namespace IsPlain

variable {a b : String}

theorem append (ha : IsPlain a) (hb : IsPlain b) : IsPlain (a ++ b) := by
  intro c hc
  rw [String.toList_append] at hc
  exact (List.mem_append.mp hc).elim (ha c) (hb c)

theorem not_mem (h : IsPlain a) {c : Char} (hc : Text.Quoted.escape c ≠ [c]) : c ∉ a.toList :=
  fun hmem => hc (h c hmem)

/-- A plain text between quotes is a literal. -/
theorem quote (h : IsPlain a) : Sealed (Text.Quoted.quote a) [.literal a] := by
  intro rest
  have hbody : a.toList.flatMap Text.Quoted.escape = a.toList := by
    rw [List.flatMap_congr h, List.flatMap_singleton']
  have hquote : Pending.step .nothing '"' = ([], .literal []) := rfl
  have happend : '"' :: a.toList ++ ['"'] ++ rest = '"' :: (a.toList ++ '"' :: rest) := by simp
  rw [Text.Quoted.quote, String.toList_ofList, hbody, happend, Pending.tokens, hquote,
    List.nil_append, Pending.tokens_literal (h.not_mem (by decide)) (h.not_mem (by decide)),
    List.nil_append, String.ofList_toList]
  rfl

end IsPlain

/-! ## Names that are used -/

/-- A name that an expression starts with, the part that is taken of it, and the type that this is
turned into. -/
structure Use where
  name : String
  part? : Option String
  cast? : Option String
  deriving DecidableEq, Repr

/-- The type that what stands before the given tokens is turned into. -/
def castBefore : List Token → Option String
  | .word keyword :: .word type :: _ => if keyword = "as" then some type else none
  | _ => none

/-- The use of a name before further tokens. -/
def Use.before (name : String) : List Token → Use
  | .dot :: .word part :: ts => ⟨name, some part, castBefore ts⟩
  | _ => ⟨name, none, none⟩

/-- Whether a word before the given tokens is a label, or leads to a name in a module. -/
def labels : List Token → Bool
  | .colon :: _ => true
  | _ => false

/-- The names that tokens use behind a dot, or not.  A word behind a single dot is a part of
something; behind two dots it is not. -/
def usesAfter : Bool → List Token → List Use
  | _, [] => []
  | dotted, .word w :: ts =>
    (if dotted || labels ts then [] else [Use.before w ts]) ++ usesAfter false ts
  | dotted, .dot :: ts => usesAfter (!dotted) ts
  | _, .literal _ :: ts | _, .colon :: ts | _, .mark _ :: ts => usesAfter false ts

/-- The names that tokens use. -/
def uses (ts : List Token) : List Use :=
  usesAfter false ts

/-- The words that stand before colons. -/
def binders : List Token → List String
  | [] => []
  | .word w :: ts => (if labels ts then [w] else []) ++ binders ts
  | .literal _ :: ts | .dot :: ts | .colon :: ts | .mark _ :: ts => binders ts

/-- Whether a token neither leads on nor is led on to. -/
def Token.isMark : Token → Bool
  | .mark _ => true
  | _ => false

/-- Tokens of which the last is a mark, so that nothing behind them belongs to them. -/
def Closed (ts : List Token) : Prop :=
  ts.getLast?.map Token.isMark = some true

namespace Closed

variable {t : Token} {ts : List Token}

theorem ne_nil (h : Closed ts) : ts ≠ [] := by
  rintro rfl
  cases h

theorem tail (h : Closed (t :: ts)) (ht : t.isMark = false) : Closed ts := by
  cases ts with
  | nil =>
    rw [Closed, List.getLast?_singleton, Option.map_some, ht] at h
    cases h
  | cons u ts => rwa [Closed, List.getLast?_cons_cons] at h

theorem labels_append (h : Closed ts) (us : List Token) : labels (ts ++ us) = labels ts := by
  cases ts with
  | nil => exact absurd rfl h.ne_nil
  | cons t ts => cases t <;> rfl

theorem castBefore_append (h : Closed ts) (us : List Token) :
    castBefore (ts ++ us) = castBefore ts := by
  cases ts with
  | nil => exact absurd rfl h.ne_nil
  | cons t ts =>
    cases t with
    | word keyword =>
      cases ts with
      | nil => exact absurd rfl (h.tail rfl).ne_nil
      | cons u ts => cases u <;> rfl
    | _ => rfl

theorem before_append (h : Closed ts) (name : String) (us : List Token) :
    Use.before name (ts ++ us) = Use.before name ts := by
  cases ts with
  | nil => exact absurd rfl h.ne_nil
  | cons t ts =>
    cases t with
    | dot =>
      cases ts with
      | nil => exact absurd rfl (h.tail rfl).ne_nil
      | cons u ts =>
        cases u with
        | word part =>
          show Use.mk name (some part) (castBefore (ts ++ us)) = _
          rw [((h.tail rfl).tail rfl).castBefore_append]
          rfl
        | _ => rfl
    | _ => rfl

/-- **What closed tokens use does not depend on what stands behind them.** -/
theorem usesAfter_append (h : Closed ts) (dotted : Bool) (us : List Token) :
    usesAfter dotted (ts ++ us) = usesAfter dotted ts ++ uses us := by
  induction ts generalizing dotted with
  | nil => exact absurd rfl h.ne_nil
  | cons t ts ih =>
    cases t with
    | word w =>
      have hts := h.tail rfl
      rw [List.cons_append, usesAfter, usesAfter, hts.labels_append, hts.before_append, ih hts,
        List.append_assoc]
    | dot => exact ih (h.tail rfl) _
    | literal s => exact ih (h.tail rfl) _
    | colon => exact ih (h.tail rfl) _
    | mark c =>
      cases ts with
      | nil => rfl
      | cons u ts => exact ih (by rwa [Closed, List.getLast?_cons_cons] at h) _

end Closed

/-- The names that lines use are those that each of them uses. -/
theorem uses_flatten {lines : List (List Token)} (h : ∀ ts ∈ lines, ts = [] ∨ Closed ts) :
    uses lines.flatten = lines.flatMap uses := by
  induction lines with
  | nil => rfl
  | cons ts lines ih =>
    obtain ⟨hts, hlines⟩ := List.forall_mem_cons.mp h
    rw [List.flatten_cons, List.flatMap_cons, ← ih hlines]
    rcases hts with rfl | hts
    · rfl
    · exact hts.usesAfter_append false _

end Tracepoint.Artifact
