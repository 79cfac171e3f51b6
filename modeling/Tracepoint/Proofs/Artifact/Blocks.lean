import Mathlib
import Tracepoint.Artifact.Source
import Tracepoint.Proofs.Schema.FieldLine
import Tracepoint.Proofs.Text.Newlines

/-!
# Reading generated texts

Generated texts are read back line by line.  A line is read by what always stands in it, and a
block is read from the line that opens it to the line that closes it; a block with a line in it
that cannot be read makes the whole text unreadable.

* `linesOf_unlines` — the lines of a text are those that it was made of;
* `Template.read?_line` — the words of a line are read back;
* `Grammar.Reads` — which blocks some lines hold, wherever they stand in a text, and how these are
  put together (`Reads.append`, `Reads.flatMap`, `reads_block`).
-/

set_option autoImplicit false

namespace Tracepoint.Artifact

open FieldLine (after? after?_append after?_eq_none)
open Text (newlines newlines_eq_zero)

/-! ## Lines -/

/-- The lines of a text, and what follows its last newline. -/
def linesOf (text : String) : List String :=
  (text.toList.splitOn '\n').map String.ofList

theorem unlines_cons (line : String) (lines : List String) :
    unlines (line :: lines) = line ++ "\n" ++ unlines lines := by
  rw [unlines, List.map_cons, String.join_cons, unlines]

/-- **The lines of a text are those that it is made of.** -/
theorem linesOf_unlines {lines : List String} (h : ∀ line ∈ lines, newlines line = 0) :
    linesOf (unlines lines) = lines ++ [""] := by
  induction lines with
  | nil => rfl
  | cons line lines ih =>
    obtain ⟨hline, hlines⟩ := List.forall_mem_cons.mp h
    have hsplit : (unlines (line :: lines)).toList.splitOn '\n' =
        line.toList :: (unlines lines).toList.splitOn '\n' := by
      have htext : (unlines (line :: lines)).toList =
          line.toList ++ '\n' :: (unlines lines).toList := by
        rw [unlines_cons, String.toList_append, String.toList_append, List.append_assoc]
        rfl
      rw [htext]
      exact List.splitOn_append_cons_self_of_not_mem (newlines_eq_zero.mp hline) _
    have ih := ih hlines
    rw [linesOf] at ih
    rw [linesOf, hsplit, List.map_cons, ih, String.ofList_toList, List.cons_append]

/-! ## The words of a line -/

/-- A line of which only some words vary. -/
structure Template where
  /-- What the line starts with. -/
  front : String
  /-- What stands after each of the words. -/
  separators : List String

namespace Template

/-- The words before separators; each ends where the separator after it may start. -/
def words? : List String → List Char → Option (List String)
  | [], cs => if cs = [] then some [] else none
  | separator :: separators, cs =>
    let word := cs.takeWhile fun c => separator.toList.head? ≠ some c
    (after? separator.toList (cs.drop word.length)).bind fun rest =>
      (words? separators rest).map (String.ofList word :: ·)

/-- The words of a line. -/
def read? (t : Template) (line : String) : Option (List String) :=
  (after? t.front.toList line.toList).bind (words? t.separators)

/-- The line with the given words. -/
def line (t : Template) (words : List String) : String :=
  t.front ++ String.join (List.zipWith (· ++ ·) words t.separators)

/-- Whether a word ends where the separator after it starts, not earlier. -/
def Ends (word separator : String) : Prop :=
  ∃ c cs, separator.toList = c :: cs ∧ c ∉ word.toList

theorem takeWhile_word {word separator : String} (h : Ends word separator) (rest : List Char) :
    (word.toList ++ (separator.toList ++ rest)).takeWhile
      (fun c => separator.toList.head? ≠ some c) = word.toList := by
  obtain ⟨c, cs, hseparator, hc⟩ := h
  have hword : ∀ d ∈ word.toList, decide (separator.toList.head? ≠ some d) = true := by
    intro d hd
    have hne : c ≠ d := fun heq => hc (heq ▸ hd)
    simp [hseparator, hne]
  rw [List.takeWhile_append_of_pos hword, hseparator, List.cons_append,
    List.takeWhile_cons_of_neg (by simp), List.append_nil]

theorem words?_append {words separators : List String} (h : List.Forall₂ Ends words separators) :
    words? separators (String.join (List.zipWith (· ++ ·) words separators)).toList =
      some words := by
  induction h with
  | nil => rfl
  | @cons word separator words separators hends _ ih =>
    have htext :
        (String.join (List.zipWith (· ++ ·) (word :: words) (separator :: separators))).toList =
        word.toList ++ (separator.toList ++
          (String.join (List.zipWith (· ++ ·) words separators)).toList) := by
      rw [List.zipWith_cons_cons, String.join_cons, String.toList_append, String.toList_append,
        List.append_assoc]
    rw [htext, words?]
    simp only [takeWhile_word hends, List.drop_left, after?_append, Option.bind_some, ih,
      Option.map_some, String.ofList_toList]

/-- **The words of a line are read back**, if no separator starts inside of the word before it. -/
theorem read?_line (t : Template) {words : List String}
    (h : List.Forall₂ Ends words t.separators) : t.read? (t.line words) = some words := by
  rw [read?, line, String.toList_append, after?_append, Option.bind_some, words?_append h]

/-- Whether two texts differ at a place that both have. -/
def Clash (a b : String) : Prop :=
  ∃ pair ∈ a.toList.zip b.toList, pair.1 ≠ pair.2

instance (a b : String) : Decidable (Clash a b) :=
  List.decidableBEx (fun pair : Char × Char => pair.1 ≠ pair.2) (a.toList.zip b.toList)

theorem not_prefix_of_clash {a b : String} (h : Clash a b) (rest : List Char) :
    ¬ a.toList <+: b.toList ++ rest := by
  obtain ⟨pair, hpair, hne⟩ := h
  rintro ⟨tail, heq⟩
  obtain ⟨i, hi⟩ := List.mem_iff_getElem?.mp hpair
  obtain ⟨ha, hb⟩ := List.getElem?_zip_eq_some.mp hi
  have hleft : (a.toList ++ tail)[i]? = some pair.1 := by
    rw [List.getElem?_append_left (List.getElem?_eq_some_iff.mp ha).1, ha]
  have hright : (b.toList ++ rest)[i]? = some pair.2 := by
    rw [List.getElem?_append_left (List.getElem?_eq_some_iff.mp hb).1, hb]
  rw [heq, hright, Option.some.injEq] at hleft
  exact hne hleft.symm

theorem append_ne_of_clash {a b : String} (h : Clash a b) (rest : String) : b ++ rest ≠ a := by
  intro heq
  apply not_prefix_of_clash h rest.toList
  rw [← String.toList_append, heq]

/-- A line that starts in another way is not read. -/
theorem read?_of_clash (t : Template) {start : String} (h : Clash t.front start) (rest : String) :
    t.read? (start ++ rest) = none := by
  have hnot := not_prefix_of_clash h rest.toList
  rw [read?, String.toList_append, after?_eq_none.mpr hnot, Option.bind_none]

end Template

/-! ## Blocks -/

/-- Two lists are related that are made of one, item by item. -/
theorem forall₂_map {ι γ δ : Type} {R : γ → δ → Prop} {items : List ι} {left : ι → γ}
    {right : ι → δ} (h : ∀ item ∈ items, R (left item) (right item)) :
    List.Forall₂ R (items.map left) (items.map right) := by
  rwa [List.forall₂_map_left_iff, List.forall₂_map_right_iff, List.forall₂_same]

/-- What a block of lines says. -/
structure Block (α β : Type) where
  header : α
  entries : List β
  deriving DecidableEq, Repr

/-- How blocks of one kind are written. -/
structure Grammar (α β : Type) where
  /-- What a line says that opens a block. -/
  header? : String → Option α
  /-- Whether a line ends the entries of a block. -/
  closes : String → Bool
  /-- What an entry says. -/
  entryOf? : String → Option β

namespace Grammar

variable {α β : Type} (g : Grammar α β)

/-- The entries up to the line that closes them. -/
def entries? : List String → Option (List β)
  | [] => none
  | line :: lines =>
    if g.closes line then some []
    else (g.entryOf? line).bind fun entry => (entries? lines).map (entry :: ·)

/-- The blocks that lines hold; none if the entries of one cannot be read. -/
def blocks? : List String → Option (List (Block α β))
  | [] => some []
  | line :: lines =>
    match g.header? line with
    | none => blocks? lines
    | some header =>
      (g.entries? lines).bind fun entries => (blocks? lines).map (⟨header, entries⟩ :: ·)

/-- The blocks that a text holds. -/
def read? (text : String) : Option (List (Block α β)) :=
  g.blocks? (linesOf text)

/-- Lines hold the given blocks, whatever follows them. -/
def Reads (lines : List String) (blocks : List (Block α β)) : Prop :=
  ∀ rest, g.blocks? (lines ++ rest) = (g.blocks? rest).map (blocks ++ ·)

variable {g}

theorem reads_nil {lines : List String} (h : ∀ line ∈ lines, g.header? line = none) :
    g.Reads lines [] := by
  intro rest
  induction lines with
  | nil => simp
  | cons line lines ih =>
    obtain ⟨hline, hlines⟩ := List.forall_mem_cons.mp h
    rw [List.cons_append, blocks?, hline]
    exact ih hlines

theorem Reads.append {lines lines' : List String} {blocks blocks' : List (Block α β)}
    (h : g.Reads lines blocks) (h' : g.Reads lines' blocks') :
    g.Reads (lines ++ lines') (blocks ++ blocks') := by
  intro rest
  rw [List.append_assoc, h, h', Option.map_map]
  simp [Function.comp_def]

theorem Reads.flatMap {γ : Type} {items : List γ} {lines : γ → List String}
    {block : γ → Block α β} (h : ∀ item ∈ items, g.Reads (lines item) [block item]) :
    g.Reads (items.flatMap lines) (items.map block) := by
  induction items with
  | nil => exact reads_nil (by simp)
  | cons item items ih =>
    obtain ⟨hitem, hitems⟩ := List.forall_mem_cons.mp h
    exact hitem.append (ih hitems)

/-- A line that is one entry of a block and nothing else. -/
structure IsEntry (g : Grammar α β) (line : String) (entry : β) : Prop where
  header : g.header? line = none
  closes : g.closes line = false
  entry : g.entryOf? line = some entry

theorem entries?_append {lines : List String} {entries : List β}
    (h : List.Forall₂ g.IsEntry lines entries) {closing : String}
    (hclosing : g.closes closing = true) (rest : List String) :
    g.entries? (lines ++ closing :: rest) = some entries := by
  induction h with
  | nil => simp [entries?, hclosing]
  | cons hentry _ ih => simp [entries?, hentry.closes, hentry.entry, ih]

theorem header?_entries {lines : List String} {entries : List β}
    (h : List.Forall₂ g.IsEntry lines entries) : ∀ line ∈ lines, g.header? line = none := by
  induction h with
  | nil => simp
  | cons hentry _ ih => exact List.forall_mem_cons.mpr ⟨hentry.header, ih⟩

/-- **A block is read** from the line that opens it, its entries, and the line that closes it. -/
theorem reads_block {opening closing : String} {header : α} {lines : List String}
    {entries : List β} (hopening : g.header? opening = some header)
    (hentries : List.Forall₂ g.IsEntry lines entries) (hclosing : g.closes closing = true)
    (hheader : g.header? closing = none) :
    g.Reads (opening :: lines ++ [closing]) [⟨header, entries⟩] := by
  intro rest
  have hlines : g.Reads (lines ++ [closing]) [] := by
    refine reads_nil fun line hline => ?_
    rcases List.mem_append.mp hline with hline | hline
    · exact header?_entries hentries line hline
    · rw [List.mem_singleton.mp hline, hheader]
  have hblocks : g.blocks? (lines ++ closing :: rest) = g.blocks? rest := by
    simpa using hlines rest
  have happend : opening :: lines ++ [closing] ++ rest = opening :: (lines ++ closing :: rest) := by
    simp
  rw [happend, blocks?, hopening]
  simp only [entries?_append hentries hclosing, hblocks, Option.bind_some, List.cons_append,
    List.nil_append]

/-- The blocks of a text are those of the lines that it is made of. -/
theorem Reads.read? {lines : List String} {blocks : List (Block α β)} (h : g.Reads lines blocks)
    (hlines : ∀ line ∈ lines, newlines line = 0) (hempty : g.header? "" = none) :
    g.read? (unlines lines) = some blocks := by
  have hend : g.blocks? [""] = some [] := by
    rw [blocks?, hempty, blocks?]
  rw [Grammar.read?, linesOf_unlines hlines, h, hend, Option.map_some, List.append_nil]

end Grammar

end Tracepoint.Artifact
