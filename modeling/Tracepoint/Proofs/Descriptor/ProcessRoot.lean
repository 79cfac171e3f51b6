import Mathlib
import Tracepoint.FileTree.Procfs
import Tracepoint.Proofs.Text.Digits
import Tracepoint.Proofs.Text.Lossy

/-!
# Paths stay below the root of their process

A tracked path is looked up as the process sees it, so it is joined to the root of the process after
everything that makes it absolute was taken off its front.  A path that is absolute in an unusual
spelling (with several slashes, or with `.` components right after the root) must not be left
absolute by that, as it would then take the place of the root it is joined to.

* `Path.steps_append`, `Path.components_join` — what components are made of, and what joining does
  to them;
* `Path.isAbsolute_belowRoot`, `Path.steps_belowRoot` — a path below the root is relative, and takes
  the same steps;
* `Procfs.confinement_contract` — so it is always looked up below the root of the process.
-/

set_option autoImplicit false

namespace Tracepoint

namespace Path

/-! ## Steps -/

/-- The components of a path that lead from one directory to another: all but the root and `.`. -/
def steps (path : Bytes) : List Component :=
  (pieces path).filterMap Component.ofPiece?

theorem components_eq (path : Bytes) : components path = front path ++ steps path := rfl

theorem pieces_ne_nil (path : Bytes) : pieces path ≠ [] := by
  cases path with
  | nil => exact List.cons_ne_nil _ _
  | cons b path =>
    unfold pieces
    split
    · exact List.cons_ne_nil _ _
    · split <;> exact List.cons_ne_nil _ _

/-- A slash parts the pieces before it from those after it. -/
theorem pieces_append (path rest : Bytes) :
    pieces (path ++ slash :: rest) = pieces path ++ pieces rest := by
  induction path with
  | nil => rfl
  | cons b path ih =>
    rw [List.cons_append, pieces, pieces, ih]
    split
    · rfl
    · cases hpieces : pieces path with
      | nil => exact (pieces_ne_nil path hpieces).elim
      | cons piece pieces => rfl

theorem pieces_of_notMem {path : Bytes} (h : slash ∉ path) : pieces path = [path] := by
  induction path with
  | nil => rfl
  | cons b path ih =>
    obtain ⟨hb, hpath⟩ := not_or.mp (List.mem_cons.not.mp h)
    rw [pieces, if_neg (Ne.symm hb), ih hpath]

theorem steps_append (path rest : Bytes) :
    steps (path ++ slash :: rest) = steps path ++ steps rest := by
  rw [steps, pieces_append, List.filterMap_append, steps, steps]

theorem steps_append_slash (path : Bytes) : steps (path ++ [slash]) = steps path := by
  rw [steps_append]
  exact List.append_nil _

/-- A name is one step. -/
theorem steps_of_name {name : Bytes} (hslash : slash ∉ name) (hempty : name ≠ [])
    (hdot : name ≠ [dot]) (hup : name ≠ [dot, dot]) : steps name = [.name name] := by
  rw [steps, pieces_of_notMem hslash]
  simp [Component.ofPiece?, hempty, hdot, hup]

theorem ofPiece?_eq_some {piece : Bytes} {c : Component} (h : Component.ofPiece? piece = some c) :
    c ≠ .root ∧ c ≠ .here := by
  unfold Component.ofPiece? at h
  split_ifs at h <;> cases h <;> simp

/-- **The steps are the components other than the root and `.`**, in order. -/
theorem filter_components (path : Bytes) :
    ((components path).filter fun c => c ≠ .root ∧ c ≠ .here) = steps path := by
  have hfront : ((front path).filter fun c => c ≠ .root ∧ c ≠ .here) = [] := by
    unfold front
    split_ifs <;> rfl
  have hsteps : ((steps path).filter fun c => c ≠ .root ∧ c ≠ .here) = steps path := by
    refine List.filter_eq_self.mpr fun c hc => ?_
    obtain ⟨piece, -, hpiece⟩ := List.mem_filterMap.mp hc
    exact decide_eq_true (ofPiece?_eq_some hpiece)
  rw [components_eq, List.filter_append, hfront, hsteps, List.nil_append]

/-! ## Joining -/

/-- What a path starts with is decided before its first slash, if anything is. -/
theorem front_append {path : Bytes} (h : path ≠ []) (rest : Bytes) :
    front (path ++ slash :: rest) = front path := by
  have habsolute : isAbsolute (path ++ slash :: rest) = isAbsolute path := by
    rw [isAbsolute, List.head?_append_of_ne_nil _ h, isAbsolute]
  rw [front, habsolute, pieces_append, List.head?_append_of_ne_nil _ (pieces_ne_nil path), front]

theorem join_of_relative {base path : Bytes} (hpath : isAbsolute path = false) (hbase : base ≠ [])
    (hlast : base.getLast? ≠ some slash) : join base path = base ++ slash :: path := by
  rw [join, hpath, if_neg Bool.false_ne_true, if_neg (not_or.mpr ⟨hbase, hlast⟩)]

/-- **Joining adds the steps of a relative path.** -/
theorem components_join {base path : Bytes} (hpath : isAbsolute path = false)
    (hfront : base = [] → front path = []) :
    components (join base path) = components base ++ steps path := by
  by_cases hbase : base = []
  · subst hbase
    rw [join, hpath, if_neg Bool.false_ne_true, if_pos (.inl rfl), List.nil_append, components_eq,
      hfront rfl]
    rfl
  · by_cases hlast : base.getLast? = some slash
    · obtain ⟨front', rfl⟩ := List.getLast?_eq_some_iff.mp hlast
      have hfronts : front (front' ++ slash :: path) = front (front' ++ [slash]) := by
        cases front' with
        | nil => rfl
        | cons b front' => rw [front_append (List.cons_ne_nil _ _),
            front_append (List.cons_ne_nil _ _)]
      rw [join, hpath, if_neg Bool.false_ne_true, if_pos (.inr hlast), List.append_assoc,
        List.singleton_append, components_eq, components_eq, hfronts, steps_append,
        steps_append_slash, List.append_assoc]
    · rw [join_of_relative hpath hbase hlast, components_eq, components_eq, front_append hbase,
        steps_append, List.append_assoc]

/-! ## Below the root -/

theorem steps_trimFront (path : Bytes) : steps (trimFront path) = steps path := by
  fun_induction trimFront path with
  | case1 => rfl
  | case2 rest ih =>
    rw [ih]
    exact (steps_append [] rest).symm
  | case3 b rest _ h ih =>
    -- a `.` at the end, or with a slash after it
    rw [ih]
    obtain ⟨rfl, rfl | h⟩ := h
    · rfl
    · cases rest with
      | nil => cases h
      | cons b rest =>
        cases h
        exact (steps_append [dot] rest).symm
  | case4 => rfl

theorem steps_reverse_trimFront (path : Bytes) :
    steps (trimFront path).reverse = steps path.reverse := by
  fun_induction trimFront path with
  | case1 => rfl
  | case2 rest ih => rw [ih, List.reverse_cons, steps_append_slash]
  | case3 b rest _ h ih =>
    rw [ih]
    obtain ⟨rfl, rfl | h⟩ := h
    · rfl
    · cases rest with
      | nil => cases h
      | cons b rest =>
        cases h
        calc steps (slash :: rest).reverse
            = steps rest.reverse := by rw [List.reverse_cons, steps_append_slash]
          _ = steps rest.reverse ++ steps [dot] := (List.append_nil _).symm
          _ = steps (rest.reverse ++ slash :: [dot]) := (steps_append _ _).symm
          _ = steps (dot :: slash :: rest).reverse := by simp
  | case4 => rfl

theorem steps_trimBack (path : Bytes) : steps (trimBack path) = steps path := by
  rw [trimBack, steps_reverse_trimFront, List.reverse_reverse]

/-- **A path takes the same steps below the root.** -/
theorem steps_belowRoot (path : Bytes) : steps (belowRoot path) = steps path := by
  unfold belowRoot
  split
  · rw [steps_trimBack, steps_trimFront]
  · rfl

theorem isAbsolute_trimFront (path : Bytes) : isAbsolute (trimFront path) = false := by
  fun_induction trimFront path with
  | case1 => rfl
  | case2 _ ih => exact ih
  | case3 _ _ _ _ ih => exact ih
  | case4 b rest hslash _ => simpa [isAbsolute] using hslash

theorem trimFront_suffix (path : Bytes) : trimFront path <:+ path := by
  fun_induction trimFront path with
  | case1 => exact List.suffix_rfl
  | case2 _ ih => exact ih.trans (List.suffix_cons _ _)
  | case3 _ _ _ _ ih => exact ih.trans (List.suffix_cons _ _)
  | case4 => exact List.suffix_rfl

theorem trimBack_prefix (path : Bytes) : trimBack path <+: path := by
  rw [← List.reverse_suffix, trimBack, List.reverse_reverse]
  exact trimFront_suffix path.reverse

/-- **A path below the root is relative**, however its root is spelled. -/
theorem isAbsolute_belowRoot (path : Bytes) : isAbsolute (belowRoot path) = false := by
  unfold belowRoot
  split
  · obtain ⟨rest, hrest⟩ := trimBack_prefix (trimFront path)
    have hfront := isAbsolute_trimFront path
    rw [← hrest] at hfront
    cases htrimmed : trimBack (trimFront path) with
    | nil => rfl
    | cons b trimmed =>
      rw [htrimmed] at hfront
      exact hfront
  · rename_i h
    exact Bool.eq_false_iff.mpr h

end Path

/-! ## The directory of a process -/

namespace Procfs

open Tracepoint.Path

/-- The decimal digits of a process number, as bytes. -/
def decimal (pid : Pid) : Bytes :=
  (Nat.toDigits 10 pid.toNat).map fun c => UInt8.ofNat c.toNat

theorem toBytes_toString (pid : Pid) : Text.toBytes (toString pid.toNat) = decimal pid := by
  have hdigit : ∀ d < 10, (Nat.digitChar d).toNat < 128 := by decide
  have hascii : Text.Utf8.IsAscii (Nat.toDigits 10 pid.toNat) := by
    intro c hc
    obtain ⟨d, hd, rfl⟩ := Text.Digits.mem_toDigits (by omega) hc
    exact hdigit d hd
  have hlist : (toString pid.toNat).toList = Nat.toDigits 10 pid.toNat := Nat.toList_repr
  rw [Text.toBytes, hlist, Text.Utf8.encode_ascii hascii, decimal]

/-- The digits of a process number are neither slashes nor dots. -/
theorem mem_decimal {pid : Pid} {b : UInt8} (h : b ∈ decimal pid) : b ≠ slash ∧ b ≠ dot := by
  have hdigit : ∀ d < 10, UInt8.ofNat (Nat.digitChar d).toNat ≠ slash ∧
      UInt8.ofNat (Nat.digitChar d).toNat ≠ dot := by decide
  obtain ⟨c, hc, rfl⟩ := List.mem_map.mp h
  obtain ⟨d, hd, rfl⟩ := Text.Digits.mem_toDigits (by omega) hc
  exact hdigit d hd

theorem decimal_ne_nil (pid : Pid) : decimal pid ≠ [] :=
  List.map_eq_nil_iff.not.mpr (Text.Digits.toDigits_ne_nil (by omega) _)

theorem steps_decimal (pid : Pid) : steps (decimal pid) = [.name (decimal pid)] := by
  have hdot : dot ∉ decimal pid := fun h => (mem_decimal h).2 rfl
  refine steps_of_name (fun h => (mem_decimal h).1 rfl) (decimal_ne_nil pid) ?_ ?_
  · intro h
    exact hdot (by rw [h]; exact List.mem_cons_self)
  · intro h
    exact hdot (by rw [h]; exact List.mem_cons_self)

/-- Digits start neither at the root nor with a `.`. -/
theorem front_decimal (pid : Pid) : front (decimal pid) = [] := by
  have hslash : slash ∉ decimal pid := fun h => (mem_decimal h).1 rfl
  have hdot : dot ∉ decimal pid := fun h => (mem_decimal h).2 rfl
  have habsolute : isAbsolute (decimal pid) = false :=
    decide_eq_false fun h => hslash (List.mem_of_head? h)
  have hhere : (pieces (decimal pid)).head? ≠ some [dot] := by
    rw [pieces_of_notMem hslash, List.head?_cons]
    intro h
    rw [Option.some.inj h] at hdot
    exact hdot List.mem_cons_self
  rw [front, habsolute, if_neg Bool.false_ne_true, if_neg hhere]

theorem processPath_ne_nil (root : Bytes) (pid : Pid) : processPath root pid ≠ [] := by
  rw [processPath, toBytes_toString, join]
  split
  · exact decimal_ne_nil pid
  split
  · exact List.append_ne_nil_of_right_ne_nil _ (decimal_ne_nil pid)
  · exact List.append_ne_nil_of_right_ne_nil _ (List.cons_ne_nil _ _)

theorem components_processPath (root : Bytes) (pid : Pid) :
    components (processPath root pid) = components root ++ [.name (decimal pid)] := by
  have habsolute : isAbsolute (decimal pid) = false :=
    decide_eq_false fun h => (mem_decimal (List.mem_of_head? h)).1 rfl
  rw [processPath, toBytes_toString, components_join habsolute fun _ => front_decimal pid,
    steps_decimal]

/-! ## Below the root of a process -/

/-- The name of the link to the root of a process. -/
def rootName : Bytes := Text.toBytes "root"

/-- The root of a process. -/
def processRoot (root : Bytes) (pid : Pid) : Bytes :=
  join (processPath root pid) rootName

theorem components_processRoot (root : Bytes) (pid : Pid) :
    components (processRoot root pid) =
      components root ++ [.name (decimal pid), .name rootName] := by
  have hsteps : steps rootName = [.name rootName] := by decide +kernel
  rw [processRoot, components_join (by decide +kernel) fun h => absurd h (processPath_ne_nil _ _),
    components_processPath, hsteps, List.append_assoc, List.singleton_append]

theorem getLast?_processRoot (root : Bytes) (pid : Pid) :
    (processRoot root pid).getLast? = rootName.getLast? := by
  have hname : rootName ≠ [] := by decide +kernel
  have hrelative : isAbsolute rootName = false := by decide +kernel
  rw [processRoot, join, hrelative, if_neg Bool.false_ne_true]
  split
  · exact List.getLast?_append_of_ne_nil _ hname
  · rw [List.getLast?_append_of_ne_nil _ (List.cons_ne_nil _ _), List.getLast?_cons_of_ne_nil hname]

theorem processRoot_ne_nil (root : Bytes) (pid : Pid) : processRoot root pid ≠ [] := by
  intro h
  have hlast := getLast?_processRoot root pid
  rw [h] at hlast
  exact absurd hlast (by decide +kernel)

/-- **A path is looked up below the root of the process.** -/
theorem filePath_eq (root : Bytes) (pid : Pid) (path : Bytes) :
    filePath root pid path = processRoot root pid ++ slash :: belowRoot path := by
  have hlast : (processRoot root pid).getLast? ≠ some slash := by
    rw [getLast?_processRoot]
    decide +kernel
  exact join_of_relative (isAbsolute_belowRoot path) (processRoot_ne_nil root pid) hlast

/-- Where a path is looked up that a process has open. -/
structure ConfinementContract (root : Bytes) (pid : Pid) (path : Bytes) : Prop where
  /-- One path is handed to the file system, and its answer is the answer. -/
  handed : ∀ (t : FileTree) (current : Inode), (t.procfs current root).stat pid path =
    ((t.stat current (filePath root pid path)).map FileTree.identity).mapError IoError.ofErrno
  /-- It leads to the directory of processes, to the process, to its root, and on from there as the
  given path does from its own root or without one. -/
  components : Path.components (filePath root pid path) =
    Path.components root ++ [.name (decimal pid), .name (Text.toBytes "root")] ++
      (Path.components path).filter fun c => c ≠ .root ∧ c ≠ .here
  /-- What is joined to the root of the process is relative, so it never takes its place. -/
  below : ∃ relative, isAbsolute relative = false ∧
    filePath root pid path = processRoot root pid ++ slash :: relative

/-- **A path is always looked up below the root of its process**, however it is spelled. -/
theorem confinement_contract (root : Bytes) (pid : Pid) (path : Bytes) :
    ConfinementContract root pid path where
  handed _ _ := rfl
  components := by
    have hjoin : components (filePath root pid path) =
        components (processRoot root pid) ++ steps (belowRoot path) :=
      components_join (isAbsolute_belowRoot path) fun h => absurd h (processRoot_ne_nil root pid)
    rw [hjoin, components_processRoot, steps_belowRoot, filter_components, rootName]
  below := ⟨belowRoot path, isAbsolute_belowRoot path, filePath_eq root pid path⟩

/-- A path with two spellings of its root, one behind the other. -/
example : filePath (Text.toBytes "/proc") 7 (Text.toBytes "//./x/.") =
    Text.toBytes "/proc/7/root/x" := by
  decide +kernel

end Procfs

end Tracepoint
