import Mathlib
import Tracepoint.Text.Pattern

/-!
# What a search finds

* `firstAt_eq_some` — the first place of a text at which something is found;
* `Pattern.front?_seq`, `Pattern.findSome?_oneOrMore`, `Pattern.findSome?_lazy` — which way through
  a sequence is preferred: a greedy repetition is taken whole if what follows it cannot start inside
  it, and a lazy one ends at the first place where the rest matches;
* `Pattern.captures?_cons` — a search tries one place after the other.
-/

set_option autoImplicit false

namespace Tracepoint.Text

/-! ## The first place -/

variable {α β : Type}

/-- What `find?` finds at the first place where it finds something, and what is before that. -/
def firstAt (find? : List Char → Option α) : List Char → Option (List Char × α)
  | [] => (find? []).map ([], ·)
  | c :: cs =>
    match find? (c :: cs) with
    | some a => some ([], a)
    | none => (firstAt find? cs).map fun found => (c :: found.1, found.2)

/-- Whether `a` is found where `before` ends. -/
def FoundAfter (find? : List Char → Option α) (cs before : List Char) (a : α) : Prop :=
  ∃ rest, cs = before ++ rest ∧ find? rest = some a

variable {find? : List Char → Option α} {cs before : List Char} {a : α}

theorem foundAfter_nil : FoundAfter find? cs [] a ↔ find? cs = some a := by
  constructor
  · rintro ⟨rest, rfl, h⟩
    exact h
  · intro h
    exact ⟨cs, rfl, h⟩

theorem foundAfter_cons {c d : Char} :
    FoundAfter find? (c :: cs) (d :: before) a ↔ d = c ∧ FoundAfter find? cs before a := by
  constructor
  · rintro ⟨rest, heq, h⟩
    obtain ⟨rfl, rfl⟩ := List.cons.inj heq
    exact ⟨rfl, rest, rfl, h⟩
  · rintro ⟨rfl, rest, rfl, h⟩
    exact ⟨rest, rfl, h⟩

/-- **The first place**: something is found there, and nothing anywhere before. -/
theorem firstAt_eq_some :
    firstAt find? cs = some (before, a) ↔
      FoundAfter find? cs before a ∧
        ∀ earlier b, FoundAfter find? cs earlier b → before.length ≤ earlier.length := by
  induction cs generalizing before with
  | nil =>
    constructor
    · intro h
      obtain ⟨b, hb, heq⟩ := Option.map_eq_some_iff.mp h
      cases heq
      exact ⟨foundAfter_nil.mpr hb, fun earlier _ _ => Nat.zero_le _⟩
    · rintro ⟨⟨rest, heq, h⟩, -⟩
      obtain ⟨rfl, rfl⟩ := List.append_eq_nil_iff.mp heq.symm
      simp [firstAt, h]
  | cons c cs ih =>
    rw [firstAt]
    cases hhere : find? (c :: cs) with
    | some b =>
      constructor
      · intro h
        cases h
        exact ⟨foundAfter_nil.mpr hhere, fun earlier _ _ => Nat.zero_le _⟩
      · rintro ⟨hfound, hfirst⟩
        have hnil := hfirst [] b (foundAfter_nil.mpr hhere)
        obtain rfl := List.length_eq_zero_iff.mp (Nat.le_zero.mp hnil)
        rw [foundAfter_nil, hhere] at hfound
        rw [Option.some.inj hfound]
    | none =>
      have hnot : ∀ b, ¬ FoundAfter find? (c :: cs) [] b := by
        intro b hb
        rw [foundAfter_nil, hhere] at hb
        cases hb
      constructor
      · intro h
        obtain ⟨⟨found, b⟩, hfound, heq⟩ := Option.map_eq_some_iff.mp h
        cases heq
        obtain ⟨hafter, hfirst⟩ := ih.mp hfound
        refine ⟨foundAfter_cons.mpr ⟨rfl, hafter⟩, ?_⟩
        intro earlier b hb
        cases earlier with
        | nil => exact (hnot b hb).elim
        | cons d earlier => exact Nat.succ_le_succ (hfirst earlier b (foundAfter_cons.mp hb).2)
      · rintro ⟨hafter, hfirst⟩
        cases before with
        | nil => exact (hnot a hafter).elim
        | cons d before =>
          obtain ⟨rfl, htail⟩ := foundAfter_cons.mp hafter
          have htail : firstAt find? cs = some (before, a) := by
            refine ih.mpr ⟨htail, fun earlier b hb => ?_⟩
            exact Nat.le_of_succ_le_succ (hfirst (d :: earlier) b (foundAfter_cons.mpr ⟨rfl, hb⟩))
          rw [htail, Option.map_some]

theorem firstAt_eq_none :
    firstAt find? cs = none ↔ ∀ before a, ¬ FoundAfter find? cs before a := by
  induction cs with
  | nil =>
    constructor
    · rintro h before a ⟨rest, heq, ha⟩
      obtain ⟨rfl, rfl⟩ := List.append_eq_nil_iff.mp heq.symm
      simp [firstAt, ha] at h
    · intro h
      cases hnil : find? [] with
      | none => simp [firstAt, hnil]
      | some a => exact (h [] a (foundAfter_nil.mpr hnil)).elim
  | cons c cs ih =>
    rw [firstAt]
    cases hhere : find? (c :: cs) with
    | some a => simpa using ⟨[], a, foundAfter_nil.mpr hhere⟩
    | none =>
      rw [Option.map_eq_none_iff, ih]
      constructor
      · intro h before a hfound
        cases before with
        | nil =>
          rw [foundAfter_nil, hhere] at hfound
          cases hfound
        | cons d before => exact h before a (foundAfter_cons.mp hfound).2
      · intro h before a hfound
        exact h (c :: before) a (foundAfter_cons.mpr ⟨rfl, hfound⟩)

namespace Pattern

/-! ## Preference -/

/-- The texts kept on the preferred way at the front of a text. -/
def front? (p : Pattern) (cs : List Char) : Option (List (String × List Char)) :=
  (p.way? cs).map Way.groups

/-- A search tries the front of a text before the places after it. -/
theorem captures?_cons (p : Pattern) (c : Char) (cs : List Char) :
    p.captures? (c :: cs) = (p.front? (c :: cs)).or (p.captures? cs) := by
  rw [captures?, search, front?, captures?]
  cases p.way? (c :: cs) <;> simp

variable {p q : Pattern} {accepts : Char → Bool}

/-- The first way through the earlier part from which the later part matches. -/
theorem front?_seq (p q : Pattern) (cs : List Char) :
    (seq p q).front? cs =
      (p.ways cs).findSome? fun w => (q.front? w.rest).map (w.groups ++ ·) := by
  simp only [front?, way?, ways, List.head?_flatMap, List.map_findSome?, List.head?_map,
    Option.map_map, Function.comp_def, Way.andThen]

theorem ways_literal_append (s rest : List Char) :
    (literal s).ways (s ++ rest) = [⟨s, [], rest⟩] := by
  induction s with
  | nil => rfl
  | cons c s ih =>
    rw [literal, sequence] at ih
    simp [literal, sequence, ways, ih, Way.andThen]

theorem ways_literal_of_not_prefix {s cs : List Char} (h : ¬ s <+: cs) :
    (literal s).ways cs = [] := by
  induction s generalizing cs with
  | nil => exact (h List.nil_prefix).elim
  | cons c s ih =>
    cases cs with
    | nil => rfl
    | cons d cs =>
      rw [List.cons_prefix_cons] at h
      rw [literal, sequence] at ih
      by_cases hc : d = c
      · have hs : ¬ s <+: cs := fun hs => h ⟨hc.symm, hs⟩
        simp [literal, sequence, ways, hc, ih hs]
      · simp [literal, sequence, ways, hc]

/-! ## Repetition -/

/-- The longest run is the one up to the first character that is not of the class; every other run
ends before a character of the class. -/
theorem reverse_runs (accepts : Char → Bool) (cs : List Char) :
    ∃ shorter, (runs accepts cs).reverse =
        (cs.takeWhile accepts, cs.dropWhile accepts) :: shorter ∧
      ∀ r ∈ shorter, ∃ c rest, r.2 = c :: rest ∧ accepts c = true := by
  induction cs with
  | nil => exact ⟨[], rfl, by simp⟩
  | cons c cs ih =>
    cases hc : accepts c with
    | false => exact ⟨[], by simp [runs, hc], by simp⟩
    | true =>
      obtain ⟨shorter, hreverse, hshorter⟩ := ih
      refine ⟨shorter.map (fun r => (c :: r.1, r.2)) ++ [([], c :: cs)], ?_, ?_⟩
      · simp [runs, hc, ← List.map_reverse, hreverse]
      · intro r hr
        rcases List.mem_append.mp hr with hr | hr
        · obtain ⟨s, hs, rfl⟩ := List.mem_map.mp hr
          exact hshorter s hs
        · obtain rfl := List.mem_singleton.mp hr
          exact ⟨c, cs, rfl, hc⟩

/-- **A greedy run is taken whole** if nothing is found where it would end inside. -/
theorem findSome?_greedy {find? : List Char × List Char → Option β}
    (h : ∀ run c rest, accepts c = true → find? (run, c :: rest) = none) (cs : List Char) :
    (runs accepts cs).reverse.findSome? find? =
      find? (cs.takeWhile accepts, cs.dropWhile accepts) := by
  obtain ⟨shorter, hreverse, hshorter⟩ := reverse_runs accepts cs
  have hnone : shorter.findSome? find? = none := by
    rw [List.findSome?_eq_none_iff]
    rintro ⟨run, rest⟩ hr
    obtain ⟨c, rest', rfl, hc⟩ := hshorter _ hr
    exact h run c rest' hc
  rw [hreverse, List.findSome?_cons, hnone]
  cases find? (cs.takeWhile accepts, cs.dropWhile accepts) <;> rfl

theorem findSome?_oneOrMore {find? : Way → Option β}
    (h : ∀ taken c rest, accepts c = true → find? ⟨taken, [], c :: rest⟩ = none)
    (cs : List Char) :
    ((oneOrMore accepts).ways cs).findSome? find? =
      if cs.takeWhile accepts = [] then none
      else find? ⟨cs.takeWhile accepts, [], cs.dropWhile accepts⟩ := by
  cases cs with
  | nil => rfl
  | cons c cs =>
    cases hc : accepts c with
    | false => simp [oneOrMore, ways, hc]
    | true =>
      have hgreedy : (runs accepts cs).reverse.findSome?
          (fun r => find? ⟨c :: r.1, [], r.2⟩) =
            find? ⟨c :: cs.takeWhile accepts, [], cs.dropWhile accepts⟩ :=
        findSome?_greedy (fun run d rest hd => h (c :: run) d rest hd) cs
      simp [oneOrMore, ways, hc, List.findSome?_map, ← List.map_reverse, Way.andThen,
        Function.comp_def, hgreedy]

/-- A repetition matches everywhere. -/
theorem front?_many_nothing (accepts : Char → Bool) (cs : List Char) :
    (seq (many true accepts) nothing).front? cs = some [] := by
  obtain ⟨shorter, hreverse, -⟩ := reverse_runs accepts cs
  simp [front?, way?, ways, ← List.map_reverse, hreverse, Way.andThen]

/-- **A lazy repetition ends at the first place** where something is found after it. -/
theorem findSome?_lazy (find? : List Char → Option α) (make : List Char → α → β) {cs : List Char}
    (h : ∀ c ∈ cs, accepts c = true) :
    ((runs accepts cs).findSome? fun r => (find? r.2).map (make r.1)) =
      (firstAt find? cs).map fun found => make found.1 found.2 := by
  induction cs generalizing make with
  | nil =>
    simp only [runs, firstAt, List.findSome?_cons, List.findSome?_nil]
    cases find? [] <;> rfl
  | cons c cs ih =>
    have hc := h c List.mem_cons_self
    have htail := ih (fun taken => make (c :: taken)) fun d hd => h d (List.mem_cons_of_mem _ hd)
    rw [runs, firstAt, hc, if_pos rfl, List.findSome?_cons]
    cases find? (c :: cs) with
    | some a => rfl
    | none =>
      simp only [Option.map_none, List.findSome?_map, Function.comp_def, htail, Option.map_map]

end Pattern

end Tracepoint.Text
