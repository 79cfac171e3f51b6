import Mathlib
import Tracepoint.Proofs.Text.Pattern
import Tracepoint.Schema.FieldPattern
import Tracepoint.Schema.Format

/-!
# How a field line is split

A field line is described by a regular pattern that may match in many ways.  The scanner of field
lines makes the two choices that matter one after the other: the first mark with white space before
it, and from there the first name between a space and a semicolon.

* `FieldLine.captures?_pattern` — a search for the pattern captures what the scanner finds;
* `FieldLine.declaration?_eq_some`, `FieldLine.typeAndName?_eq_some` — both choices are the first
  that can be made;
* `FieldLine.split_contract` — how every declaring line is split, and when it is malformed.
-/

set_option autoImplicit false

namespace Tracepoint.FieldLine

open Text

/-! ## Fronts -/

theorem after?_append (front rest : List Char) : after? front (front ++ rest) = some rest := by
  have h : front.isPrefixOf (front ++ rest) = true :=
    List.isPrefixOf_iff_prefix.mpr (List.prefix_append _ _)
  rw [after?, if_pos h, List.drop_left]

theorem after?_eq_some {front cs rest : List Char} :
    after? front cs = some rest ↔ cs = front ++ rest := by
  constructor
  · intro h
    unfold after? at h
    split_ifs at h with hfront
    obtain ⟨rest', rfl⟩ := List.isPrefixOf_iff_prefix.mp hfront
    rw [List.drop_left] at h
    rw [Option.some.inj h]
  · rintro rfl
    exact after?_append front rest

theorem after?_eq_none {front cs : List Char} : after? front cs = none ↔ ¬ front <+: cs := by
  rw [after?, ← List.isPrefixOf_iff_prefix]
  split_ifs with h <;> simp [h]

/-- The rest after a mark that has white space right before it. -/
def markAtFront? : List Char → Option (List Char)
  | [] => none
  | c :: cs => if isBlank c then after? mark cs else none

theorem declaration?_eq (line : List Char) :
    declaration? line = (firstAt markAtFront? line).map Prod.snd := by
  induction line with
  | nil => rfl
  | cons c cs ih =>
    rw [declaration?, firstAt, markAtFront?]
    cases isBlank c with
    | false => simp [ih, Function.comp_def]
    | true => cases after? mark cs <;> simp [ih, Function.comp_def]

theorem typeAndName?_eq (cs : List Char) : typeAndName? cs = firstAt nameAtFront? cs := by
  induction cs with
  | nil => rfl
  | cons c cs ih =>
    rw [typeAndName?, firstAt, ih]
    cases nameAtFront? (c :: cs) with
    | some name => rfl
    | none => cases firstAt nameAtFront? cs <;> rfl

theorem cases_of_isNameChar {c : Char} (h : isNameChar c = true) :
    c = '_' ∨ c.isLower = true ∨ c.isDigit = true := by
  simp only [isNameChar, Bool.or_eq_true, decide_eq_true_eq] at h
  tauto

theorem isNameChar_semicolon : isNameChar ';' = false := by decide

theorem takeWhile_name {name after : List Char} (h : ∀ c ∈ name, isNameChar c = true) :
    (name ++ ';' :: after).takeWhile isNameChar = name := by
  rw [List.takeWhile_append_of_pos h, List.takeWhile_cons_of_neg (by simp [isNameChar_semicolon]),
    List.append_nil]

theorem dropWhile_name {name after : List Char} (h : ∀ c ∈ name, isNameChar c = true) :
    (name ++ ';' :: after).dropWhile isNameChar = ';' :: after := by
  rw [List.dropWhile_append_of_pos h, List.dropWhile_cons_of_neg (by simp [isNameChar_semicolon])]

/-- A name: characters of the class, at least one. -/
structure IsName (name : List Char) : Prop where
  nonempty : name ≠ []
  spelled : ∀ c ∈ name, isNameChar c = true

theorem nameAtFront?_eq_some {cs name : List Char} :
    nameAtFront? cs = some name ↔ IsName name ∧ ∃ after, cs = ' ' :: (name ++ ';' :: after) := by
  constructor
  · intro h
    unfold nameAtFront? at h
    split at h
    · rename_i rest
      dsimp only at h
      split_ifs at h with hname
      cases h
      obtain ⟨hne, hend⟩ := hname
      refine ⟨⟨hne, fun c hc => List.mem_takeWhile_imp hc⟩, ?_⟩
      cases hrest : rest.dropWhile isNameChar with
      | nil => simp [hrest] at hend
      | cons d after =>
        rw [hrest, List.head?_cons, Option.some.injEq] at hend
        refine ⟨after, ?_⟩
        rw [← hend, ← hrest, List.takeWhile_append_dropWhile]
    · cases h
  · rintro ⟨⟨hne, hspelled⟩, after, rfl⟩
    rw [nameAtFront?, takeWhile_name hspelled, dropWhile_name hspelled]
    simp [hne]

/-! ## The pattern -/

/-- The pattern from the semicolon on. -/
def semicolonOn : Pattern :=
  .seq (.literal [';']) (.seq (.many true isInLine) .nothing)

/-- The pattern from the space before the name on. -/
def spaceOn : Pattern :=
  .seq (.literal [' ']) (.seq (.group "name" (.oneOrMore isNameChar)) semicolonOn)

/-- The pattern from the type on. -/
def typeOn : Pattern :=
  .seq (.group "type" (.many false isInLine)) spaceOn

theorem pattern_eq : pattern = .seq (.oneOrMore isBlank) (.seq (.literal mark) typeOn) := rfl

theorem front?_semicolonOn (cs : List Char) :
    semicolonOn.front? cs = if cs.head? = some ';' then some [] else none := by
  rw [semicolonOn, Pattern.front?_seq]
  split_ifs with h
  · obtain ⟨rest, rfl⟩ := List.head?_eq_some_iff.mp h
    have hways := Pattern.ways_literal_append [';'] rest
    rw [List.singleton_append] at hways
    simp [hways, Pattern.front?_many_nothing]
  · have hnot : ¬ [';'] <+: cs := by
      rintro ⟨rest, rfl⟩
      exact h rfl
    rw [Pattern.ways_literal_of_not_prefix hnot]
    rfl

/-- **The name is taken whole**, as no semicolon is part of one. -/
theorem front?_spaceOn (cs : List Char) :
    spaceOn.front? cs = (nameAtFront? cs).map fun name => [("name", name)] := by
  rw [spaceOn, Pattern.front?_seq]
  by_cases hspace : [' '] <+: cs
  · obtain ⟨rest, rfl⟩ := hspace
    have hinside : ∀ taken c rest, isNameChar c = true →
        (semicolonOn.front? (c :: rest)).map
          (((Pattern.Way.mk taken [] (c :: rest)).named "name").groups ++ ·) = none := by
      intro taken c rest hc
      have hne : c ≠ ';' := by
        rintro rfl
        simp [isNameChar_semicolon] at hc
      simp [front?_semicolonOn, hne]
    rw [Pattern.ways_literal_append, List.findSome?_singleton, Pattern.front?_seq]
    simp only [Pattern.ways, List.findSome?_map, Function.comp_def]
    rw [Pattern.findSome?_oneOrMore hinside, front?_semicolonOn]
    simp only [List.singleton_append, nameAtFront?]
    by_cases hname : rest.takeWhile isNameChar = []
    · simp [hname]
    · by_cases hend : (rest.dropWhile isNameChar).head? = some ';'
      · simp [hname, hend, Pattern.Way.named]
      · simp [hname, hend, Pattern.Way.named]
  · have hnone : nameAtFront? cs = none := by
      unfold nameAtFront?
      split
      · rename_i rest
        exact (hspace ⟨rest, rfl⟩).elim
      · rfl
    rw [Pattern.ways_literal_of_not_prefix hspace, hnone]
    rfl

/-- **The type ends at the first place where a name follows.** -/
theorem front?_typeOn {cs : List Char} (hline : '\n' ∉ cs) :
    typeOn.front? cs = (typeAndName? cs).map fun split => groups split.1 split.2 := by
  have hinLine : ∀ c ∈ cs, isInLine c = true := by
    intro c hc
    simpa [isInLine] using fun h : c = '\n' => hline (h ▸ hc)
  have hlazy := Pattern.findSome?_lazy nameAtFront? groups hinLine
  rw [typeOn, Pattern.front?_seq, typeAndName?_eq, ← hlazy]
  simp only [Pattern.ways, Bool.false_eq_true, ↓reduceIte, List.findSome?_map, Function.comp_def,
    front?_spaceOn, Option.map_map, Pattern.Way.named]
  rfl

theorem front?_markOn {cs : List Char} (hline : '\n' ∉ cs) :
    (Pattern.seq (.literal mark) typeOn).front? cs =
      ((after? mark cs).bind typeAndName?).map fun split => groups split.1 split.2 := by
  rw [Pattern.front?_seq]
  cases hafter : after? mark cs with
  | none =>
    rw [Pattern.ways_literal_of_not_prefix (after?_eq_none.mp hafter)]
    rfl
  | some rest =>
    obtain rfl := after?_eq_some.mp hafter
    have hrest : '\n' ∉ rest := fun h => hline (List.mem_append_right _ h)
    simp [Pattern.ways_literal_append, front?_typeOn hrest, Function.comp_def]

/-- What the pattern captures from a run of white space on: all of the white space comes before the
mark, since no mark starts with white space. -/
theorem front?_pattern {cs : List Char} (hline : '\n' ∉ cs) :
    pattern.front? cs =
      if cs.takeWhile isBlank = [] then none
      else ((after? mark (cs.dropWhile isBlank)).bind typeAndName?).map
        fun split => groups split.1 split.2 := by
  have hinside : ∀ taken c rest, isBlank c = true →
      ((Pattern.seq (.literal mark) typeOn).front? (c :: rest)).map
        ((Pattern.Way.mk taken [] (c :: rest)).groups ++ ·) = none := by
    intro taken c rest hc
    have hnot : ¬ mark <+: c :: rest := by
      rintro ⟨after, hafter⟩
      obtain ⟨hf, -⟩ := List.cons.inj hafter
      rw [← hf] at hc
      cases hc
    rw [Pattern.front?_seq, Pattern.ways_literal_of_not_prefix hnot]
    rfl
  have hrest : '\n' ∉ cs.dropWhile isBlank := fun h => hline (List.dropWhile_subset _ h)
  rw [pattern_eq, Pattern.front?_seq, Pattern.findSome?_oneOrMore hinside, front?_markOn hrest]
  simp

/-- A mark with white space before it that is found later is found after less. -/
theorem declaration?_suffix {line rest : List Char} (h : declaration? line = some rest) :
    rest <:+ line := by
  rw [declaration?_eq] at h
  obtain ⟨⟨before, found⟩, hfirst, rfl⟩ := Option.map_eq_some_iff.mp h
  obtain ⟨⟨after, rfl, hafter⟩, -⟩ := firstAt_eq_some.mp hfirst
  cases after with
  | nil => cases hafter
  | cons c after =>
    rw [markAtFront?] at hafter
    split_ifs at hafter
    rw [after?_eq_some.mp hafter]
    exact ⟨before ++ c :: mark, by simp⟩

/-- Where no name is found, none is found later. -/
theorem typeAndName?_suffix {cs rest : List Char} (h : typeAndName? cs = none)
    (hsuffix : rest <:+ cs) : typeAndName? rest = none := by
  obtain ⟨before, rfl⟩ := hsuffix
  rw [typeAndName?_eq, firstAt_eq_none] at h ⊢
  rintro earlier name ⟨after, rfl, hname⟩
  exact h (before ++ earlier) name ⟨after, (List.append_assoc _ _ _).symm, hname⟩

theorem typeAndName?_mark (rest : List Char) (h : typeAndName? rest = none) :
    typeAndName? (mark ++ rest) = none := by
  have hmark : mark = ['f', 'i', 'e', 'l', 'd', ':'] := rfl
  simp [hmark, typeAndName?, nameAtFront?, h]

theorem split?_cons_of_mark {c : Char} {cs rest : List Char} (hc : isBlank c = true)
    (hmark : after? mark cs = some rest) : split? (c :: cs) = typeAndName? rest := by
  simp [split?, declaration?, hc, hmark]

theorem split?_cons {c : Char} {cs : List Char}
    (h : isBlank c = false ∨ after? mark cs = none) : split? (c :: cs) = split? cs := by
  rcases h with h | h
  · simp [split?, declaration?, h]
  · simp [split?, declaration?, h]

/-- In white space that goes on, the pattern matches as it does from the next place on; otherwise
it does not match, if no mark follows. -/
theorem front?_of_no_mark {cs : List Char} (hline : '\n' ∉ cs) (hmark : after? mark cs = none) :
    ((after? mark (cs.dropWhile isBlank)).bind typeAndName?).map
        (fun split => groups split.1 split.2) = none ∨
      pattern.front? cs = ((after? mark (cs.dropWhile isBlank)).bind typeAndName?).map
        fun split => groups split.1 split.2 := by
  by_cases hrun : cs.takeWhile isBlank = []
  · left
    have hdrop : cs.dropWhile isBlank = cs := by
      have := List.takeWhile_append_dropWhile (p := isBlank) (l := cs)
      rwa [hrun, List.nil_append] at this
    rw [hdrop, hmark]
    rfl
  · right
    rw [front?_pattern hline, if_neg hrun]

/-- A declaration without a split has none after a later mark either. -/
theorem split?_mark_append {rest : List Char} (h : typeAndName? rest = none) :
    split? (mark ++ rest) = none := by
  cases hdecl : declaration? (mark ++ rest) with
  | none => rw [split?, hdecl, Option.bind_none]
  | some later =>
    rw [split?, hdecl, Option.bind_some]
    exact typeAndName?_suffix (typeAndName?_mark rest h) (declaration?_suffix hdecl)

/-- **A search for the pattern captures what the scanner finds.** -/
theorem captures?_pattern {line : List Char} (hline : '\n' ∉ line) :
    pattern.captures? line = (split? line).map fun split => groups split.1 split.2 := by
  induction line with
  | nil => rfl
  | cons c cs ih =>
    have ih := ih fun h => hline (List.mem_cons_of_mem _ h)
    rw [Pattern.captures?_cons, ih, front?_pattern hline]
    cases hc : isBlank c with
    | false =>
      rw [split?_cons (.inl hc)]
      simp [hc]
    | true =>
      rw [List.takeWhile_cons_of_pos hc, if_neg (List.cons_ne_nil _ _),
        List.dropWhile_cons_of_pos hc]
      cases hmark : after? mark cs with
      | some rest =>
        obtain rfl := after?_eq_some.mp hmark
        have htrim : (mark ++ rest).dropWhile isBlank = mark ++ rest := rfl
        rw [htrim, hmark, split?_cons_of_mark hc hmark, Option.bind_some]
        cases hsplit : typeAndName? rest with
        | some split => rfl
        | none =>
          -- what a later mark declares is part of what this one declares
          rw [split?_mark_append hsplit]
          rfl
      | none =>
        rw [split?_cons (.inr hmark)]
        rcases front?_of_no_mark (fun h => hline (List.mem_cons_of_mem _ h)) hmark with
          hnone | hfront
        · rw [hnone, Option.none_or]
        · rw [← hfront, ← ih]
          cases cs with
          | nil => rfl
          | cons d ds =>
            rw [Pattern.captures?_cons]
            cases pattern.front? (d :: ds) <;> rfl

/-! ## The first mark and the first name -/

/-- A mark with white space right before it: `before` comes before the white space, `rest` after
the mark. -/
def MarkedAfter (line before rest : List Char) : Prop :=
  ∃ c, isBlank c = true ∧ line = before ++ c :: (mark ++ rest)

/-- What follows the first mark of a line that has white space right before it. -/
def FirstMark (line rest : List Char) : Prop :=
  ∃ before, MarkedAfter line before rest ∧
    ∀ earlier other, MarkedAfter line earlier other → before.length ≤ earlier.length

/-- A declaration taken as a type, a space, a name and a semicolon, and anything after that. -/
def Splits (declaration type name : List Char) : Prop :=
  IsName name ∧ ∃ after, declaration = type ++ ' ' :: (name ++ ';' :: after)

/-- The first such way to take a declaration. -/
def FirstSplit (declaration type name : List Char) : Prop :=
  Splits declaration type name ∧
    ∀ type' name', Splits declaration type' name' → type.length ≤ type'.length

theorem foundAfter_mark {line before rest : List Char} :
    FoundAfter markAtFront? line before rest ↔ MarkedAfter line before rest := by
  constructor
  · rintro ⟨after, rfl, hafter⟩
    cases after with
    | nil => cases hafter
    | cons c cs =>
      rw [markAtFront?] at hafter
      split_ifs at hafter with hc
      exact ⟨c, hc, by rw [after?_eq_some.mp hafter]⟩
  · rintro ⟨c, hc, rfl⟩
    refine ⟨_, rfl, ?_⟩
    rw [markAtFront?, if_pos hc, after?_append]

theorem foundAfter_name {declaration type name : List Char} :
    FoundAfter nameAtFront? declaration type name ↔ Splits declaration type name := by
  constructor
  · rintro ⟨rest, rfl, hname⟩
    obtain ⟨hisName, after, rfl⟩ := nameAtFront?_eq_some.mp hname
    exact ⟨hisName, after, rfl⟩
  · rintro ⟨hisName, after, rfl⟩
    exact ⟨_, rfl, nameAtFront?_eq_some.mpr ⟨hisName, after, rfl⟩⟩

theorem declaration?_eq_some {line rest : List Char} :
    declaration? line = some rest ↔ FirstMark line rest := by
  rw [declaration?_eq, FirstMark]
  constructor
  · intro h
    obtain ⟨⟨before, found⟩, hfirst, rfl⟩ := Option.map_eq_some_iff.mp h
    simp only [firstAt_eq_some, foundAfter_mark] at hfirst
    exact ⟨before, hfirst⟩
  · rintro ⟨before, hfirst⟩
    simp only [← foundAfter_mark] at hfirst
    rw [firstAt_eq_some.mpr hfirst, Option.map_some]

theorem declaration?_eq_none {line : List Char} :
    declaration? line = none ↔ ∀ before rest, ¬ MarkedAfter line before rest := by
  simp only [declaration?_eq, Option.map_eq_none_iff, firstAt_eq_none, foundAfter_mark]

theorem typeAndName?_eq_some {declaration type name : List Char} :
    typeAndName? declaration = some (type, name) ↔ FirstSplit declaration type name := by
  simp only [typeAndName?_eq, firstAt_eq_some, foundAfter_name, FirstSplit]

theorem typeAndName?_eq_none {declaration : List Char} :
    typeAndName? declaration = none ↔ ∀ type name, ¬ Splits declaration type name := by
  simp only [typeAndName?_eq, firstAt_eq_none, foundAfter_name]

/-! ## What follows -/

/-- A mark that would be found before the first one lies in the line, not in what is added. -/
theorem FirstMark.append {line rest : List Char} (h : FirstMark line rest) (extra : List Char) :
    FirstMark (line ++ extra) (rest ++ extra) := by
  obtain ⟨before, ⟨c, hc, rfl⟩, hfirst⟩ := h
  refine ⟨before, ⟨c, hc, by simp⟩, ?_⟩
  rintro earlier other ⟨d, hd, heq⟩
  by_contra hlt
  have hprefix : earlier ++ d :: mark <+: before ++ c :: (mark ++ rest) := by
    refine List.prefix_of_prefix_length_le ⟨other, ?_⟩ (List.prefix_append _ extra) ?_
    · simp [heq]
    · simp only [List.length_append, List.length_cons]
      omega
  obtain ⟨other', hother⟩ := hprefix
  have hle := hfirst earlier other' ⟨d, hd, by simp [← hother]⟩
  omega

theorem space_not_mem {name : List Char} (h : IsName name) : ' ' ∉ name ++ [';'] := by
  intro hmem
  rcases List.mem_append.mp hmem with hmem | hmem
  · exact absurd (h.spelled _ hmem) (by decide)
  · simp at hmem

/-- The space of a later split is no part of an earlier name. -/
theorem not_prefix_of_space {type type' name' : List Char} (hname : IsName name')
    (hlt : type'.length < type.length) :
    ¬ type ++ [' '] <+: type' ++ ' ' :: (name' ++ [';']) := by
  intro hprefix
  have htype : type' ++ [' '] <+: type := by
    refine List.prefix_of_prefix_length_le ⟨name' ++ [';'], ?_⟩
      ((List.prefix_append type [' ']).trans hprefix) ?_
    · simp
    · simp only [List.length_append, List.length_singleton]
      omega
  obtain ⟨between, rfl⟩ := htype
  have hrest : between ++ [' '] <+: name' ++ [';'] := by
    simpa using hprefix
  exact space_not_mem hname (hrest.subset (by simp))

theorem FirstSplit.append {declaration type name : List Char} (h : FirstSplit declaration type name)
    (extra : List Char) : FirstSplit (declaration ++ extra) type name := by
  obtain ⟨⟨hname, after, rfl⟩, hfirst⟩ := h
  refine ⟨⟨hname, after ++ extra, by simp⟩, ?_⟩
  rintro type' name' ⟨hname', after', heq⟩
  by_contra hlt
  have hsplit : type' ++ ' ' :: (name' ++ [';']) <+:
      type ++ ' ' :: (name ++ ';' :: after) ++ extra :=
    ⟨after', by simp [heq]⟩
  have hspace : type ++ [' '] <+: type ++ ' ' :: (name ++ ';' :: after) ++ extra :=
    ⟨name ++ ';' :: after ++ extra, by simp⟩
  rcases List.prefix_or_prefix_of_prefix hsplit hspace with hle | hle
  · obtain ⟨middle, hmiddle⟩ := hle
    have hinside : Splits (type ++ ' ' :: (name ++ ';' :: after)) type' name' := by
      refine ⟨hname', middle ++ (name ++ ';' :: after), ?_⟩
      have hcons : type ++ ' ' :: (name ++ ';' :: after) =
          (type ++ [' ']) ++ (name ++ ';' :: after) := by simp
      rw [hcons, ← hmiddle]
      simp
    exact hlt (hfirst type' name' hinside)
  · exact not_prefix_of_space hname' (by omega) hle

theorem split?_eq_some {line type name : List Char} :
    split? line = some (type, name) ↔ ∃ rest, FirstMark line rest ∧ FirstSplit rest type name := by
  simp only [split?, Option.bind_eq_some_iff, declaration?_eq_some, typeAndName?_eq_some]

/-- Whatever is added to a line that declares a field, it declares the same field. -/
theorem split?_append {line type name : List Char} (h : split? line = some (type, name))
    (extra : List Char) : split? (line ++ extra) = some (type, name) := by
  obtain ⟨rest, hmark, hsplit⟩ := split?_eq_some.mp h
  exact split?_eq_some.mpr ⟨rest ++ extra, hmark.append extra, hsplit.append extra⟩

/-- White space before the first character of a mark makes it the first mark. -/
theorem firstMark_of_blanks {blanks : List Char} (hne : blanks ≠ [])
    (hblank : ∀ c ∈ blanks, isBlank c = true) (rest : List Char) :
    FirstMark (blanks ++ (mark ++ rest)) rest := by
  rw [← declaration?_eq_some]
  induction blanks with
  | nil => exact (hne rfl).elim
  | cons c blanks ih =>
    have hc := hblank c List.mem_cons_self
    rw [List.cons_append]
    cases blanks with
    | nil => simp [declaration?, hc, after?_append]
    | cons d blanks =>
      have hd := hblank d (List.mem_cons_of_mem _ List.mem_cons_self)
      have hnone : after? mark (d :: blanks ++ (mark ++ rest)) = none := by
        rw [after?_eq_none]
        rintro ⟨other, hother⟩
        obtain ⟨rfl, -⟩ := List.cons.inj hother
        cases hd
      have htail := ih (List.cons_ne_nil _ _) fun e he => hblank e (List.mem_cons_of_mem _ he)
      simp only [List.cons_append] at hnone htail ⊢
      rw [declaration?, if_pos hc, hnone]
      exact htail

end Tracepoint.FieldLine

/-! ## Fields -/

namespace Tracepoint.Field

theorem ofDeclaration_name {syscall kernelType name : String} {field : Field}
    (h : ofDeclaration syscall kernelType name = .ok field) : field.name = name := by
  unfold ofDeclaration at h
  split at h
  · cases h
  split at h
  · cases h
  split at h
  · cases h
  · cases h
    rfl

/-- A field has the name that its line is split into. -/
theorem name_of_ofLine {syscall : String} {line : List Char} {field : Field}
    (h : ofLine syscall line = .ok (some field)) :
    ∃ type, FieldLine.split? line = some (type, field.name.toList) := by
  unfold ofLine at h
  split at h
  · cases h
  · rename_i type name hsplit
    split at h
    · cases h
    · split at h
      · cases h
      · rename_i hdeclaration
        cases h
        refine ⟨type, ?_⟩
        rw [hsplit, ofDeclaration_name hdeclaration, String.toList_ofList]

/-- A field is named by characters of names, at least one. -/
theorem ofLine_isName {syscall : String} {line : List Char} {field : Field}
    (h : ofLine syscall line = .ok (some field)) : FieldLine.IsName field.name.toList := by
  obtain ⟨type, hsplit⟩ := name_of_ofLine h
  obtain ⟨rest, -, hfirst⟩ := FieldLine.split?_eq_some.mp hsplit
  exact hfirst.1.1

end Tracepoint.Field

namespace Tracepoint.FieldLine

open Text

/-! ## The contract -/

/-- How a line is split that declares a field. -/
structure SplitContract (line : List Char) : Prop where
  /-- A search for the pattern captures the type and the name, or fails where there is no split. -/
  captured : pattern.captures? line = (split? line).map fun s => groups s.1 s.2
  /-- White space may come before the mark that the line starts with, in whatever run: then this
  mark is the first. -/
  leading : ∃ blanks rest, (∀ c ∈ blanks, isBlank c = true) ∧ line = blanks ++ (mark ++ rest) ∧
    (blanks ≠ [] → FirstMark line rest)
  /-- Without white space right before some mark there is no split. -/
  unmarked : (∀ before rest, ¬ MarkedAfter line before rest) → split? line = none
  /-- After the first such mark the split is the first one. -/
  first : ∀ rest, FirstMark line rest →
    ∀ type name, split? line = some (type, name) ↔ FirstSplit rest type name
  unsplit : ∀ rest, FirstMark line rest →
    (split? line = none ↔ ∀ type name, ¬ Splits rest type name)
  /-- Whatever follows. -/
  extended : ∀ type name, split? line = some (type, name) →
    ∀ extra, split? (line ++ extra) = some (type, name)
  /-- The line is malformed exactly if there is no split. -/
  malformed_iff : ∀ syscall,
    Field.ofLine syscall line = .error (.malformedLine syscall (String.ofList line)) ↔
      split? line = none
  /-- Otherwise its field has the type and the name of the split. -/
  declared : ∀ syscall type name, split? line = some (type, name) →
    Field.ofLine syscall line =
      if String.ofList name = Field.syscallNumber then .ok none
      else (Field.ofDeclaration syscall (String.ofList type) (String.ofList name)).map some

theorem ofDeclaration_ne_malformed {syscall kernelType name line : String} :
    Field.ofDeclaration syscall kernelType name ≠ .error (.malformedLine syscall line) := by
  unfold Field.ofDeclaration
  split
  · simp
  split
  · simp
  split <;> simp

theorem ofLine_of_split {line type name : List Char} (h : split? line = some (type, name))
    (syscall : String) :
    Field.ofLine syscall line =
      if String.ofList name = Field.syscallNumber then .ok none
      else (Field.ofDeclaration syscall (String.ofList type) (String.ofList name)).map some := by
  rw [Field.ofLine, h]
  dsimp only
  split_ifs
  · rfl
  · cases Field.ofDeclaration syscall (String.ofList type) (String.ofList name) <;> rfl

theorem ofLine_eq_malformed {syscall : String} {line : List Char} :
    Field.ofLine syscall line = .error (.malformedLine syscall (String.ofList line)) ↔
      split? line = none := by
  constructor
  · intro h
    cases hsplit : split? line with
    | none => rfl
    | some split =>
      obtain ⟨type, name⟩ := split
      rw [ofLine_of_split hsplit] at h
      split_ifs at h
      cases hfield : Field.ofDeclaration syscall (String.ofList type) (String.ofList name) with
      | ok field => simp [hfield, Except.map] at h
      | error e =>
        rw [hfield] at h
        cases h
        exact (ofDeclaration_ne_malformed hfield).elim
  · intro h
    rw [Field.ofLine, h]

theorem leading_of_declares {line : List Char} (h : declares line = true) :
    ∃ blanks rest, (∀ c ∈ blanks, isBlank c = true) ∧ line = blanks ++ (mark ++ rest) ∧
      (blanks ≠ [] → FirstMark line rest) := by
  obtain ⟨rest, hrest⟩ := List.isPrefixOf_iff_prefix.mp h
  have hblank : ∀ c ∈ line.takeWhile isBlank, isBlank c = true := fun c hc =>
    List.mem_takeWhile_imp hc
  have hline : line = line.takeWhile isBlank ++ (mark ++ rest) := by
    rw [hrest, trimStart, List.takeWhile_append_dropWhile]
  refine ⟨line.takeWhile isBlank, rest, hblank, hline, fun hne => ?_⟩
  rw [hline]
  exact firstMark_of_blanks hne hblank rest

/-- **A declaring line is split as the pattern says**: at the first mark with white space before
it, and from there at the first name between a space and a semicolon. -/
theorem split_contract {line : List Char} (hline : '\n' ∉ line) (hdeclares : declares line = true) :
    SplitContract line where
  captured := captures?_pattern hline
  leading := leading_of_declares hdeclares
  unmarked h := by rw [split?, declaration?_eq_none.mpr h, Option.bind_none]
  first rest hrest type name := by
    rw [split?, declaration?_eq_some.mpr hrest, Option.bind_some, typeAndName?_eq_some]
  unsplit rest hrest := by
    rw [split?, declaration?_eq_some.mpr hrest, Option.bind_some, typeAndName?_eq_none]
  extended _ _ h extra := split?_append h extra
  malformed_iff _ := ofLine_eq_malformed
  declared syscall _ _ h := ofLine_of_split h syscall

/-- A line with a mark that has no white space before it, two that have, and two names. -/
def ambiguousLine : List Char :=
  "field:a b;\u3000field:int  fd; field:char c;\tsize:8;".toList

/-- The second mark counts, and after it the first name. -/
theorem split_ambiguousLine :
    '\n' ∉ ambiguousLine ∧ declares ambiguousLine = true ∧ SplitContract ambiguousLine ∧
      split? ambiguousLine = some ("int ".toList, "fd".toList) := by
  have hline : '\n' ∉ ambiguousLine := by decide +kernel
  have hdeclares : declares ambiguousLine = true := by decide +kernel
  exact ⟨hline, hdeclares, split_contract hline hdeclares, by decide +kernel⟩

end Tracepoint.FieldLine
