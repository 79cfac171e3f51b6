import Mathlib
import Tracepoint.Build
import Tracepoint.Proofs.Schema.Compiled
import Tracepoint.Proofs.Text.Lossy

/-!
# Compiling a directory

What becomes of a directory of tracepoints depends on what it contains, not on the order in which
its entries are listed: each description is ordered by name for itself, and as no two syscalls have
one name, the three orders are the same.

* `DirectoryEntry.consider_eq_format` — the entries that are compiled;
* `Gathered.fst_compile_eq_ok`, `Gathered.fst_compile_eq_error` — what compiling entries in order
  yields;
* `Schemas.sorted_ofCompiled` — ordering each description for itself keeps them aligned;
* `Gathered.result_perm` — the order of the listing does not matter;
* `gathering_contract` — when compiling a directory fails, and what it yields if it does not.
-/

set_option autoImplicit false

namespace Tracepoint

/-! ## Entries -/

namespace DirectoryEntry

/-- An entry offers the format of a considered syscall, and it can be read. -/
structure Offers (entry : DirectoryEntry) (syscall text : String) : Prop where
  directory : entry.isDirectory = true
  name : entry.name = Text.toBytes (enterMark ++ syscall)
  considered : syscall ∈ consideredSyscalls
  format : entry.format = .ok text

theorem entered?_eq_some {event syscall : String} :
    entered? event = some syscall ↔ event = enterMark ++ syscall := by
  unfold entered?
  constructor
  · intro h
    split_ifs at h with hexit henter
    cases h
    obtain ⟨rest, hrest⟩ := List.isPrefixOf_iff_prefix.mp henter
    rw [← String.toList_inj, String.toList_append, String.toList_ofList, ← hrest,
      List.drop_left]
  · rintro rfl
    -- the two marks part at their sixth character, so no name starts with both
    have hexit : exitMark.toList.isPrefixOf (enterMark ++ syscall).toList = false := by
      rw [String.toList_append]
      rfl
    have henter : enterMark.toList.isPrefixOf (enterMark ++ syscall).toList = true := by
      rw [String.toList_append, List.isPrefixOf_iff_prefix]
      exact List.prefix_append _ _
    rw [hexit, henter, if_neg Bool.false_ne_true, if_pos rfl, String.toList_append,
      List.drop_left, String.ofList_toList]

theorem isAscii_considered : ∀ syscall ∈ consideredSyscalls, Text.Utf8.IsAscii syscall.toList := by
  decide

theorem isAscii_event {syscall : String} (h : syscall ∈ consideredSyscalls) :
    Text.Utf8.IsAscii (enterMark ++ syscall).toList := by
  have hmark : Text.Utf8.IsAscii enterMark.toList := by decide
  rw [String.toList_append]
  exact hmark.append (isAscii_considered syscall h)

/-- **The entries that are compiled** are those that offer the format of a considered syscall.  A
name that is no text does not pass for that of a tracepoint. -/
theorem consider_eq_format {entry : DirectoryEntry} {syscall text : String} :
    entry.consider = .format syscall text ↔ entry.Offers syscall text := by
  constructor
  · intro h
    simp only [consider] at h
    split_ifs at h with hdirectory
    split at h
    · cases h
    · rename_i found hentered
      split_ifs at h with hconsidered
      split at h
      · cases h
      · rename_i read hformat
        cases h
        exact
          { directory := hdirectory
            name := (Text.ofBytes_eq_iff (isAscii_event hconsidered)).mp
              (entered?_eq_some.mp hentered)
            considered := hconsidered
            format := hformat }
  · intro h
    have hevent : entered? (Text.ofBytes entry.name) = some syscall :=
      entered?_eq_some.mpr
        ((Text.ofBytes_eq_iff (isAscii_event h.considered)).mpr h.name)
    simp [consider, h.directory, hevent, h.considered, h.format]

/-- What compiling an entry yields, if it offers a format. -/
def compiled? (entry : DirectoryEntry) : Option (Except SchemaError Compiled) :=
  match entry.consider with
  | .format syscall text => some (Compiled.ofFormat syscall text)
  | _ => none

theorem compiled?_eq_some {entry : DirectoryEntry} {r : Except SchemaError Compiled} :
    entry.compiled? = some r ↔
      ∃ syscall text, entry.Offers syscall text ∧ Compiled.ofFormat syscall text = r := by
  unfold compiled?
  constructor
  · intro h
    split at h
    · rename_i syscall text hformat
      exact ⟨syscall, text, consider_eq_format.mp hformat, Option.some.inj h⟩
    · cases h
  · rintro ⟨syscall, text, hoffers, rfl⟩
    rw [consider_eq_format.mpr hoffers]

/-- The compiled syscall has the name that its entry has after the mark. -/
theorem name_of_compiled {entry : DirectoryEntry} {c : Compiled}
    (h : entry.compiled? = some (.ok c)) :
    entry.name = Text.toBytes (enterMark ++ c.decoder.name) ∧
      c.record.name = c.decoder.name ∧ c.wire.name = c.decoder.name := by
  obtain ⟨syscall, text, hoffers, hok⟩ := compiled?_eq_some.mp h
  obtain ⟨fields, rfl, -⟩ := Compiled.ofFormat_ok hok
  exact ⟨hoffers.name, rfl, rfl⟩

end DirectoryEntry

/-! ## Entries in order -/

namespace Gathered

variable (directory : Bytes) {entries : List DirectoryEntry}

theorem fst_compile_cons (entry : DirectoryEntry) (rest : List DirectoryEntry) :
    (compile directory (entry :: rest)).1 =
      match entry.compiled? with
      | none => (compile directory rest).1
      | some (.error e) => .error e
      | some (.ok c) => (compile directory rest).1.map (c :: ·) := by
  rw [compile]
  unfold DirectoryEntry.compiled?
  cases entry.consider with
  | format syscall text =>
    dsimp only
    cases Compiled.ofFormat syscall text <;> rfl
  | ignored => rfl
  | skipped event => rfl
  | unavailable syscall e => rfl

theorem fst_compile_eq_ok {cs : List Compiled} :
    (compile directory entries).1 = .ok cs ↔
      entries.filterMap DirectoryEntry.compiled? = cs.map .ok := by
  induction entries generalizing cs with
  | nil =>
    rw [List.filterMap_nil, eq_comm (a := []), List.map_eq_nil_iff]
    exact ⟨fun h => (Except.ok.inj h).symm, fun h => h ▸ rfl⟩
  | cons entry rest ih =>
    rw [fst_compile_cons]
    cases h : entry.compiled? with
    | none => rw [List.filterMap_cons_none h, ← ih]
    | some r =>
      rw [List.filterMap_cons_some h]
      cases r with
      | error e => cases cs <;> simp
      | ok c =>
        -- the first of `cs` is `c`, and the others are what the rest yields
        cases cs with
        | nil => cases (compile directory rest).1 <;> simp [Except.map]
        | cons d ds =>
          rw [List.map_cons, List.cons.injEq, Except.ok.injEq, ← ih]
          cases (compile directory rest).1 <;> simp [Except.map]

/-- Compiling fails with the error of the first entry that has one. -/
theorem fst_compile_eq_error {e : SchemaError} :
    (compile directory entries).1 = .error e ↔
      ∃ (before : List Compiled) (after : List (Except SchemaError Compiled)),
        entries.filterMap DirectoryEntry.compiled? = before.map .ok ++ .error e :: after := by
  induction entries with
  | nil => simp [compile]
  | cons entry rest ih =>
    rw [fst_compile_cons]
    cases h : entry.compiled? with
    | none => rw [List.filterMap_cons_none h, ← ih]
    | some r =>
      rw [List.filterMap_cons_some h]
      cases r with
      | error found =>
        constructor
        · intro he
          cases he
          exact ⟨[], _, rfl⟩
        · rintro ⟨before, after, heq⟩
          cases before with
          | nil =>
            rw [List.map_nil, List.nil_append, List.cons.injEq] at heq
            exact congrArg _ (Except.error.inj heq.1)
          | cons b before => simp at heq
      | ok c =>
        have hmap : (compile directory rest).1.map (c :: ·) = .error e ↔
            (compile directory rest).1 = .error e := by
          cases (compile directory rest).1 <;> simp [Except.map]
        rw [hmap, ih]
        constructor
        · rintro ⟨before, after, heq⟩
          exact ⟨c :: before, after, by rw [heq]; rfl⟩
        · rintro ⟨before, after, heq⟩
          cases before with
          | nil => simp at heq
          | cons b before =>
            rw [List.map_cons, List.cons_append, List.cons.injEq] at heq
            exact ⟨before, after, heq.2⟩

end Gathered

/-! ## The order of syscalls -/

/-- Compiled syscalls ordered by name. -/
def Compiled.sorted (cs : List Compiled) : List Compiled :=
  cs.mergeSort fun a b => a.decoder.name ≤ b.decoder.name

/-- The three descriptions have one name. -/
def Compiled.OneName (c : Compiled) : Prop :=
  c.record.name = c.decoder.name ∧ c.wire.name = c.decoder.name

/-- **Ordering each description for itself keeps them aligned**: it is to order the syscalls. -/
theorem Schemas.sorted_ofCompiled {cs : List Compiled} (h : ∀ c ∈ cs, c.OneName) :
    (ofCompiled cs).sorted = ofCompiled (Compiled.sorted cs) := by
  have hdecoder : Syscall.sorted (cs.map Compiled.decoder) =
      (Compiled.sorted cs).map Compiled.decoder := by
    refine (List.map_mergeSort fun a ha b hb => ?_).symm
    rfl
  have hrecord : Syscall.sorted (cs.map Compiled.record) =
      (Compiled.sorted cs).map Compiled.record := by
    refine (List.map_mergeSort fun a ha b hb => ?_).symm
    rw [(h a ha).1, (h b hb).1]
  have hwire : Syscall.sorted (cs.map Compiled.wire) = (Compiled.sorted cs).map Compiled.wire := by
    refine (List.map_mergeSort fun a ha b hb => ?_).symm
    rw [(h a ha).2, (h b hb).2]
  rw [Schemas.sorted, ofCompiled, hdecoder, hrecord, hwire]
  rfl

namespace Compiled

theorem sorted_perm (cs : List Compiled) : (sorted cs).Perm cs :=
  List.mergeSort_perm cs _

/-- No two syscalls have one name. -/
def DistinctNames (cs : List Compiled) : Prop :=
  cs.Pairwise fun a b => a.decoder.name ≠ b.decoder.name

theorem DistinctNames.perm {cs ds : List Compiled} (h : DistinctNames cs) (hperm : cs.Perm ds) :
    DistinctNames ds :=
  (hperm.pairwise_iff fun hne => hne.symm).mp h

theorem sorted_ordered (cs : List Compiled) :
    (sorted cs).Pairwise fun a b => a.decoder.name ≤ b.decoder.name := by
  let le (a b : Compiled) : Bool := decide (a.decoder.name ≤ b.decoder.name)
  have htrans : ∀ a b c, le a b = true → le b c = true → le a c = true := by
    intro a b c hab hbc
    exact decide_eq_true (String.le_trans (of_decide_eq_true hab) (of_decide_eq_true hbc))
  have htotal : ∀ a b, (le a b || le b a) = true := by
    intro a b
    simpa [le] using String.le_total a.decoder.name b.decoder.name
  exact (List.pairwise_mergeSort htrans htotal cs).imp of_decide_eq_true

theorem sorted_increasing {cs : List Compiled} (h : DistinctNames cs) :
    (sorted cs).Pairwise fun a b => a.decoder.name < b.decoder.name := by
  refine ((sorted_ordered cs).and (h.perm (sorted_perm cs).symm)).imp ?_
  rintro a b ⟨hab, hne⟩
  exact lt_of_le_of_ne hab hne

/-- **Where no two syscalls have one name, there is one way to order them.** -/
theorem sorted_eq_of_perm {cs ds : List Compiled} (h : DistinctNames cs) (hperm : cs.Perm ds) :
    sorted cs = sorted ds := by
  refine List.Perm.eq_of_pairwise ?_ (sorted_increasing h) (sorted_increasing (h.perm hperm)) ?_
  · intro a b _ _ hab hba
    exact absurd hab (String.lt_asymm hba)
  · exact (sorted_perm cs).trans (hperm.trans (sorted_perm ds).symm)

end Compiled

/-! ## Listings -/

namespace Gathered

variable (directory : Bytes) {entries : List DirectoryEntry} {listing other : Listing}

/-- No two entries have one name. -/
def DistinctEntries (entries : List DirectoryEntry) : Prop :=
  entries.Pairwise fun a b => a.name ≠ b.name

theorem mem_compiled {cs : List Compiled}
    (h : entries.filterMap DirectoryEntry.compiled? = cs.map .ok) {c : Compiled} :
    c ∈ cs ↔ ∃ entry ∈ entries, entry.compiled? = some (.ok c) := by
  have hinjective : Function.Injective (@Except.ok SchemaError Compiled) :=
    fun _ _ => Except.ok.inj
  rw [← List.mem_map_of_injective hinjective, ← h, List.mem_filterMap]

theorem oneName_of_compiled {cs : List Compiled}
    (h : entries.filterMap DirectoryEntry.compiled? = cs.map .ok) : ∀ c ∈ cs, c.OneName := by
  intro c hc
  obtain ⟨entry, -, hcompiled⟩ := (mem_compiled h).mp hc
  exact (DirectoryEntry.name_of_compiled hcompiled).2

/-- A syscall has one tracepoint, so no two compiled syscalls have one name. -/
theorem distinct_of_compiled (hdistinct : DistinctEntries entries) {cs : List Compiled}
    (h : entries.filterMap DirectoryEntry.compiled? = cs.map .ok) : Compiled.DistinctNames cs := by
  have hpairwise : (cs.map (@Except.ok SchemaError Compiled)).Pairwise fun a b =>
      ∀ c d, a = .ok c → b = .ok d → c.decoder.name ≠ d.decoder.name := by
    rw [← h]
    refine hdistinct.filterMap _ ?_
    rintro a b hne _ ha _ hb c d rfl rfl hname
    exact hne (by
      rw [(DirectoryEntry.name_of_compiled ha).1, (DirectoryEntry.name_of_compiled hb).1, hname])
  exact (List.pairwise_map.mp hpairwise).imp fun hab => hab _ _ rfl rfl

theorem result_eq_ok {schemas : Schemas} :
    (ofListing directory listing).result = .ok schemas ↔
      ∃ cs, listing.given.filterMap DirectoryEntry.compiled? = cs.map .ok ∧
        schemas = Schemas.ofCompiled (Compiled.sorted cs) := by
  have hresult : (ofListing directory listing).result =
      (compile directory listing.given).1.map fun cs => (Schemas.ofCompiled cs).sorted := by
    rw [ofListing]
    split <;> rename_i hcompile <;> rw [hcompile] <;> rfl
  rw [hresult]
  constructor
  · intro h
    cases hcompile : (compile directory listing.given).1 with
    | error e =>
      rw [hcompile] at h
      cases h
    | ok cs =>
      rw [hcompile] at h
      cases h
      have hcs := (fst_compile_eq_ok directory).mp hcompile
      exact ⟨cs, hcs, Schemas.sorted_ofCompiled (oneName_of_compiled hcs)⟩
  · rintro ⟨cs, hcs, rfl⟩
    rw [(fst_compile_eq_ok directory).mpr hcs, Except.map,
      Schemas.sorted_ofCompiled (oneName_of_compiled hcs)]

theorem result_eq_error {e : SchemaError} :
    (ofListing directory listing).result = .error e ↔
      (compile directory listing.given).1 = .error e := by
  rw [ofListing]
  split <;> rename_i hcompile <;> rw [hcompile] <;> simp

/-- **Compiling fails exactly if the format of an offered syscall is rejected.** -/
theorem result_fails_iff :
    (∃ e, (ofListing directory listing).result = .error e) ↔
      ∃ entry ∈ listing.given, ∃ syscall text e,
        entry.Offers syscall text ∧ Compiled.ofFormat syscall text = .error e := by
  have hmem : (∃ e, (ofListing directory listing).result = .error e) ↔
      ∃ e, Except.error e ∈ listing.given.filterMap DirectoryEntry.compiled? := by
    constructor
    · rintro ⟨e, he⟩
      rw [result_eq_error, fst_compile_eq_error] at he
      obtain ⟨before, after, heq⟩ := he
      exact ⟨e, by simp [heq]⟩
    · rintro ⟨e, he⟩
      cases hresult : (ofListing directory listing).result with
      | error found => exact ⟨found, rfl⟩
      | ok schemas =>
        obtain ⟨cs, hcs, -⟩ := (result_eq_ok directory).mp hresult
        simp [hcs] at he
  rw [hmem]
  simp only [List.mem_filterMap, DirectoryEntry.compiled?_eq_some]
  constructor
  · rintro ⟨e, entry, hentry, syscall, text, hoffers, herror⟩
    exact ⟨entry, hentry, syscall, text, e, hoffers, herror⟩
  · rintro ⟨entry, hentry, syscall, text, e, hoffers, herror⟩
    exact ⟨e, entry, hentry, syscall, text, hoffers, herror⟩

/-- **The order of the listing does not matter.** -/
theorem result_perm (hdistinct : DistinctEntries listing.given)
    (hperm : other.given.Perm listing.given) {schemas : Schemas}
    (h : (ofListing directory listing).result = .ok schemas) :
    (ofListing directory other).result = .ok schemas := by
  obtain ⟨cs, hcs, rfl⟩ := (result_eq_ok directory).mp h
  have hlisted := hperm.filterMap DirectoryEntry.compiled?
  rw [hcs] at hlisted
  cases hresult : (ofListing directory other).result with
  | error e =>
    -- the rejected format would be among the entries
    rw [result_eq_error, fst_compile_eq_error] at hresult
    obtain ⟨before, after, heq⟩ := hresult
    have hmem := hlisted.subset (heq ▸ List.mem_append_right _ List.mem_cons_self)
    simp at hmem
  | ok found =>
    obtain ⟨ds, hds, rfl⟩ := (result_eq_ok directory).mp hresult
    rw [hds, List.map_perm_map_iff fun _ _ => Except.ok.inj] at hlisted
    rw [Compiled.sorted_eq_of_perm (distinct_of_compiled hdistinct hcs) hlisted.symm]

end Gathered

/-! ## Directories -/

namespace Build

variable {m : Type → Type} [Monad m] [LawfulMonad m]

/-- The schemas of a directory, given what it lists, and what is logged on the way. -/
def gathered (directory : Bytes) :
    Except IoError Listing → Except BuildError Schemas × List LogLine
  | .error e => (.error (.listing directory e), [])
  | .ok listing =>
    ((Gathered.ofListing directory listing).result.mapError .schema,
      (Gathered.ofListing directory listing).log)

/-- The artifacts of a directory, given what it lists, and what is logged on the way. -/
def built (directory : Bytes) (listed : Except IoError Listing) :
    Except BuildError Artifacts × List LogLine :=
  ((gathered directory listed).1.bind (generate directory), (gathered directory listed).2)

theorem gather_eq (files : Files m) (directory : Bytes) :
    gather files directory = gathered directory <$> files.list directory := by
  rw [gather, map_eq_pure_bind]
  congr 1
  funext listed
  cases listed <;> rfl

theorem artifacts_eq (files : Files m) (directory : Bytes) :
    artifacts files directory = built directory <$> files.list directory := by
  rw [artifacts, gather_eq, bind_map_left, map_eq_pure_bind]
  rfl

theorem gathered_eq_ok {directory : Bytes} {listing : Listing} {schemas : Schemas} :
    (gathered directory (.ok listing)).1 = .ok schemas ↔
      (Gathered.ofListing directory listing).result = .ok schemas := by
  rw [gathered]
  cases (Gathered.ofListing directory listing).result <;> simp [Except.mapError]

theorem gathered_fails_iff {directory : Bytes} {listing : Listing} :
    (∃ e, (gathered directory (.ok listing)).1 = .error e) ↔
      ∃ e, (Gathered.ofListing directory listing).result = .error e := by
  rw [gathered]
  cases (Gathered.ofListing directory listing).result <;> simp [Except.mapError]

end Build

/-- The schemas have the three descriptions of a syscall at one place. -/
def Schemas.Holds (schemas : Schemas) (c : Compiled) : Prop :=
  ∃ i : Nat, schemas.decoder[i]? = some c.decoder ∧ schemas.record[i]? = some c.record ∧
    schemas.wire[i]? = some c.wire

theorem Schemas.holds_ofCompiled {cs : List Compiled} {c : Compiled} :
    (ofCompiled cs).Holds c ↔ c ∈ cs := by
  simp only [Holds, ofCompiled, List.getElem?_map, List.mem_iff_getElem?]
  constructor
  · rintro ⟨i, hdecoder, hrecord, hwire⟩
    obtain ⟨d, hd, hdecoder⟩ := Option.map_eq_some_iff.mp hdecoder
    rw [hd, Option.map_some, Option.some.injEq] at hrecord hwire
    obtain rfl : d = c := by
      cases d
      cases c
      simp_all
    exact ⟨i, hd⟩
  · rintro ⟨i, hi⟩
    exact ⟨i, by simp [hi]⟩

/-- Schemas that a directory is compiled to. -/
structure Schemas.CompiledFrom (schemas : Schemas) (entries : List DirectoryEntry) : Prop where
  /-- The three descriptions list the same names, in the same order. -/
  record_names : schemas.record.map Syscall.name = schemas.decoder.map Syscall.name
  wire_names : schemas.wire.map Syscall.name = schemas.decoder.map Syscall.name
  increasing : (schemas.decoder.map Syscall.name).Pairwise (· < ·)
  /-- At each place is what the format of an entry is compiled to, and all that formats of entries
  are compiled to is at a place. -/
  holds_iff : ∀ c, schemas.Holds c ↔ ∃ entry ∈ entries, ∃ syscall text,
    entry.Offers syscall text ∧ Compiled.ofFormat syscall text = .ok c

theorem Gathered.compiledFrom {directory : Bytes} {listing : Listing}
    (hdistinct : DistinctEntries listing.given) {schemas : Schemas}
    (h : (ofListing directory listing).result = .ok schemas) :
    schemas.CompiledFrom listing.given := by
  obtain ⟨cs, hcs, rfl⟩ := (result_eq_ok directory).mp h
  have hone : ∀ c ∈ Compiled.sorted cs, c.OneName := by
    intro c hc
    exact oneName_of_compiled hcs c ((Compiled.sorted_perm cs).subset hc)
  refine ⟨?_, ?_, ?_, ?_⟩
  · simp only [Schemas.ofCompiled, List.map_map]
    exact List.map_congr_left fun c hc => (hone c hc).1
  · simp only [Schemas.ofCompiled, List.map_map]
    exact List.map_congr_left fun c hc => (hone c hc).2
  · simp only [Schemas.ofCompiled, List.map_map, List.pairwise_map]
    exact Compiled.sorted_increasing (distinct_of_compiled hdistinct hcs)
  · intro c
    rw [Schemas.holds_ofCompiled, (Compiled.sorted_perm cs).mem_iff, mem_compiled hcs]
    simp only [DirectoryEntry.compiled?_eq_some]

/-- What compiling the entries of a directory promises. -/
structure GatheringContract (directory : Bytes) (listing : Listing) : Prop where
  /-- It fails exactly if there is the tracepoint of a considered syscall with a format that can be
  read and is rejected. -/
  fails_iff : (∃ e, (Build.gathered directory (.ok listing)).1 = .error e) ↔
    ∃ entry ∈ listing.given, ∃ syscall text e,
      entry.Offers syscall text ∧ Compiled.ofFormat syscall text = .error e
  compiled : ∀ schemas, (Build.gathered directory (.ok listing)).1 = .ok schemas →
    schemas.CompiledFrom listing.given
  /-- Any other listing that gives the entries has the same schemas and the same artifacts. -/
  unordered : ∀ schemas, (Build.gathered directory (.ok listing)).1 = .ok schemas →
    ∀ other : Listing, other.given.Perm listing.given →
      (Build.gathered directory (.ok other)).1 = .ok schemas ∧
        (Build.built directory (.ok other)).1 = (Build.built directory (.ok listing)).1

/-- **Compiling a directory depends on what it contains alone.**  It asks for one listing, and
fails if there is none; whatever the entries are and however they are listed, as long as no two
have one name, it fails for a rejected format only, and otherwise yields aligned schemas in the
order of their names.  An entry that the listing fails to give makes no difference. -/
theorem gathering_contract {m : Type → Type} [Monad m] [LawfulMonad m] (files : Files m)
    (directory : Bytes) :
    Build.gather files directory = Build.gathered directory <$> files.list directory ∧
      Build.artifacts files directory = Build.built directory <$> files.list directory ∧
      (∀ e, (Build.gathered directory (.error e)).1 = .error (.listing directory e)) ∧
      ∀ listing : Listing, Gathered.DistinctEntries listing.given →
        GatheringContract directory listing := by
  refine ⟨Build.gather_eq files directory, Build.artifacts_eq files directory, fun _ => rfl, ?_⟩
  intro listing hdistinct
  refine ⟨?_, ?_, ?_⟩
  · rw [Build.gathered_fails_iff, Gathered.result_fails_iff]
  · intro schemas h
    exact Gathered.compiledFrom hdistinct (Build.gathered_eq_ok.mp h)
  · intro schemas h other hperm
    have hother : (Build.gathered directory (.ok other)).1 = .ok schemas :=
      Build.gathered_eq_ok.mpr (Gathered.result_perm directory hdistinct hperm
        (Build.gathered_eq_ok.mp h))
    exact ⟨hother, by rw [Build.built, Build.built, hother, h]⟩

/-- A directory with two tracepoints, listed against the order of their names, a file, and an
entry that cannot be had. -/
def openAndClose : Listing := [
  .ok ⟨Text.toBytes "sys_enter_open", true, .ok "\n\tfield:int flags;\n"⟩,
  .ok ⟨Text.toBytes "README", false, .error .notText⟩,
  .error (.ofErrno .notDirectory),
  .ok ⟨Text.toBytes "sys_enter_close", true, .ok "\n\tfield:unsigned int fd;\n"⟩]

/-- What the tracepoints are compiled to. -/
def openAndCloseCompiled : List Compiled := [
  Compiled.ofFields "open" [⟨"flags", "int", .i64, .s64, .int64⟩],
  Compiled.ofFields "close" [⟨"fd", "unsigned int", .u64, .u64, .uint64⟩]]

/-- Listed in either order, the directory gives the same schemas. -/
theorem gathering_openAndClose :
    LawfulMonad Id ∧ Gathered.DistinctEntries openAndClose.given ∧
      ∃ schemas, (Build.gathered [] (.ok openAndClose)).1 = .ok schemas ∧
        schemas.CompiledFrom openAndClose.given ∧
        (Build.gathered [] (.ok openAndClose.reverse)).1 = .ok schemas := by
  have hdistinct : Gathered.DistinctEntries openAndClose.given := by
    unfold Gathered.DistinctEntries openAndClose
    decide +kernel
  have hcompiled : openAndClose.given.filterMap DirectoryEntry.compiled? =
      openAndCloseCompiled.map .ok := by
    decide +kernel
  have hok := Build.gathered_eq_ok.mpr ((Gathered.result_eq_ok []).mpr ⟨_, hcompiled, rfl⟩)
  let files : Files Id := ⟨fun _ => .ok openAndClose, fun _ => .ok (), fun _ _ => .ok ()⟩
  have hcontract := (gathering_contract files []).2.2.2 openAndClose hdistinct
  exact ⟨inferInstance, hdistinct, _, hok, hcontract.compiled _ hok,
    (hcontract.unordered _ hok _ ((List.reverse_perm _).filterMap _)).1⟩

end Tracepoint
