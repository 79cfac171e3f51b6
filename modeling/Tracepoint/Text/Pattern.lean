/-!
# Patterns

Regular patterns over characters, with repetition of a class and named groups.  A pattern can match
at the front of a text in several ways.  They are listed in order of preference: a greedy
repetition prefers to take more, any other to take less, and in a sequence the preference of the
earlier part decides first.  A search takes the preferred way at the first place where there is one.
-/

set_option autoImplicit false

namespace Tracepoint.Text

/-- A pattern over characters. -/
inductive Pattern where
  | nothing
  /-- One character of a class. -/
  | char (accepts : Char → Bool)
  /-- Characters of a class, in any number. -/
  | many (greedy : Bool) (accepts : Char → Bool)
  | seq (first second : Pattern)
  /-- The text that the inner pattern takes is kept under a name. -/
  | group (name : String) (inner : Pattern)

namespace Pattern

/-- One pattern after the other. -/
def sequence (patterns : List Pattern) : Pattern :=
  patterns.foldr seq nothing

/-- The given characters. -/
def literal (cs : List Char) : Pattern :=
  sequence (cs.map fun c => char fun d => d = c)

/-- Characters of a class, at least one and as many as possible. -/
def oneOrMore (accepts : Char → Bool) : Pattern :=
  seq (char accepts) (many true accepts)

/-- A way in which a pattern matches at the front of a text. -/
structure Way where
  taken : List Char
  /-- The texts kept under names, outermost and first in the text first. -/
  groups : List (String × List Char)
  /-- What follows the text that is taken. -/
  rest : List Char
  deriving DecidableEq, Repr

/-- One way and then another from where it ends. -/
def Way.andThen (first second : Way) : Way :=
  ⟨first.taken ++ second.taken, first.groups ++ second.groups, second.rest⟩

/-- A way whose text is kept under a name. -/
def Way.named (name : String) (way : Way) : Way :=
  { way with groups := (name, way.taken) :: way.groups }

/-- The runs of a class at the front of a text with what follows them, the shortest first. -/
def runs (accepts : Char → Bool) : List Char → List (List Char × List Char)
  | [] => [([], [])]
  | c :: cs =>
    ([], c :: cs) ::
      if accepts c then (runs accepts cs).map fun r => (c :: r.1, r.2) else []

/-- The ways to match at the front of a text, in order of preference. -/
def ways : Pattern → List Char → List Way
  | nothing, cs => [⟨[], [], cs⟩]
  | char _, [] => []
  | char accepts, c :: cs => if accepts c then [⟨[c], [], cs⟩] else []
  | many greedy accepts, cs =>
    let all := (runs accepts cs).map fun r => ⟨r.1, [], r.2⟩
    if greedy then all.reverse else all
  | seq first second, cs =>
    (ways first cs).flatMap fun way => (ways second way.rest).map way.andThen
  | group name inner, cs => (ways inner cs).map (Way.named name)

/-- The preferred way at the front of a text. -/
def way? (p : Pattern) (cs : List Char) : Option Way :=
  (p.ways cs).head?

/-- The preferred way at the first place where the pattern matches. -/
def search (p : Pattern) : List Char → Option Way
  | [] => p.way? []
  | c :: cs => (p.way? (c :: cs)).or (search p cs)

/-- The texts that the groups of a pattern take in a text, if it matches anywhere. -/
def captures? (p : Pattern) (cs : List Char) : Option (List (String × List Char)) :=
  (p.search cs).map Way.groups

end Pattern

end Tracepoint.Text
