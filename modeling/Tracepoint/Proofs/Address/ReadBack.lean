import Mathlib
import Tracepoint.Address.Ipv6
import Tracepoint.Proofs.Text.Digits

/-!
# Addresses are read back from their texts

The text of an IPv6 address leaves its longest run of zeros out, and an address that maps an IPv4
address has a text of another form.  One reader takes both apart again.

* `Ipv4.octetsOf_dotted` — dotted octets are read back;
* `Ipv6.split_compressed` — what stands between the colons of a compressed text;
* `Ipv6.expand_split` — the groups left out are filled in again;
* `Ipv6.ofText_text` — so the text of an address determines it.
-/

set_option autoImplicit false

namespace Tracepoint

open Text

/-! ## Lists between separators -/

theorem intercalate_append {α : Type} (separator : List α) {front back : List (List α)}
    (hfront : front ≠ []) (hback : back ≠ []) :
    separator.intercalate (front ++ back) =
      separator.intercalate front ++ separator ++ separator.intercalate back := by
  induction front with
  | nil => exact absurd rfl hfront
  | cons l front ih =>
    cases front with
    | nil =>
      rw [List.cons_append, List.nil_append, List.intercalate_cons_of_ne_nil hback,
        List.intercalate_singleton]
    | cons l' front =>
      have hne : l' :: front ≠ [] := List.cons_ne_nil _ _
      rw [List.cons_append,
        List.intercalate_cons_of_ne_nil (List.append_ne_nil_of_left_ne_nil hne _), ih hne,
        List.intercalate_cons_of_ne_nil hne]
      simp only [List.append_assoc]

theorem mem_intercalate {α : Type} {separator : List α} {pieces : List (List α)} {a : α}
    (h : a ∈ separator.intercalate pieces) : a ∈ separator ∨ ∃ piece ∈ pieces, a ∈ piece := by
  induction pieces with
  | nil => simp at h
  | cons piece pieces ih =>
    by_cases hnil : pieces = []
    · subst hnil
      rw [List.intercalate_singleton] at h
      exact .inr ⟨piece, by simp, h⟩
    · rw [List.intercalate_cons_of_ne_nil hnil, List.mem_append, List.mem_append] at h
      rcases h with (h | h) | h
      · exact .inr ⟨piece, by simp, h⟩
      · exact .inl h
      · rcases ih h with h | ⟨other, hother, h⟩
        · exact .inl h
        · exact .inr ⟨other, by simp [hother], h⟩

/-! ## Dotted texts -/

namespace Ipv4

theorem toList_dotted (octets : Bytes) :
    (dotted octets).toList = ['.'].intercalate (octets.map fun o => Nat.toDigits 10 o.toNat) := by
  rw [dotted, String.toList_intercalate, List.map_map]
  congr 1
  refine List.map_congr_left fun o _ => ?_
  exact Nat.toList_repr

/-- The octets that a dotted text names. -/
def octetsOf (text : List Char) : Bytes :=
  (List.splitOn '.' text).map fun piece => UInt8.ofNat (Digits.read 10 piece)

theorem octetsOf_dotted {octets : Bytes} (h : octets ≠ []) :
    octetsOf (dotted octets).toList = octets := by
  have hdot : ∀ piece ∈ octets.map (fun o => Nat.toDigits 10 o.toNat), '.' ∉ piece := by
    simp only [List.mem_map]
    rintro _ ⟨o, -, rfl⟩
    exact Digits.not_mem_toDigits (by omega) (by omega) (by decide) _
  rw [octetsOf, toList_dotted, List.splitOn_intercalate '.' hdot (by simpa using h), List.map_map]
  refine (List.map_congr_left fun o _ => ?_).trans (List.map_id octets)
  rw [Function.comp_apply, Digits.read_toDigits (by omega) (by omega), UInt8.ofNat_toNat]
  rfl

end Ipv4

namespace Ipv6

/-! ## The run that is left out -/

theorem foldl_max_eq_or_mem (a : Nat) (l : List Nat) : l.foldl max a = a ∨ l.foldl max a ∈ l := by
  induction l generalizing a with
  | nil => exact .inl rfl
  | cons b l ih =>
    rw [List.foldl_cons]
    rcases ih (max a b) with h | h
    · rw [h]
      rcases Nat.le_total a b with hab | hab
      · exact .inr (by simp [Nat.max_eq_right hab])
      · exact .inl (Nat.max_eq_left hab)
    · exact .inr (List.mem_cons_of_mem _ h)

/-- A run of the longest length starts where it is said to. -/
theorem zerosAt_runStart {groups : List Nat} (h : 0 < longestRun groups) :
    zerosAt groups (runStart groups) = longestRun groups := by
  have hex : ∃ i ∈ List.range groups.length, decide (zerosAt groups i = longestRun groups) := by
    rcases foldl_max_eq_or_mem 0 ((List.range groups.length).map (zerosAt groups)) with h' | h'
    · rw [longestRun, h'] at h
      omega
    · obtain ⟨i, hi, heq⟩ := List.mem_map.mp h'
      exact ⟨i, hi, decide_eq_true heq⟩
  have hfound := List.findIdx_getElem (w := List.findIdx_lt_length_of_exists hex)
  rw [List.getElem_range] at hfound
  exact of_decide_eq_true hfound

theorem replicate_append_drop {l : List Nat} {k : Nat}
    (h : (l.takeWhile (· = 0)).length = k) : List.replicate k 0 ++ l.drop k = l := by
  have hzeros : l.takeWhile (· = 0) = List.replicate k 0 := by
    rw [← h]
    refine List.eq_replicate_of_mem fun b hb => ?_
    simpa using List.mem_takeWhile_imp hb
  have hdrop : l.drop k = l.dropWhile (· = 0) := by
    conv_lhs => rw [← List.takeWhile_append_dropWhile (p := fun n : Nat => decide (n = 0)) (l := l)]
    exact List.drop_left' h
  rw [← hzeros, hdrop, List.takeWhile_append_dropWhile]

/-- The groups left out are zeros. -/
theorem groups_eq {groups : List Nat} (h : 0 < longestRun groups) :
    groups = groups.take (runStart groups) ++ (List.replicate (longestRun groups) 0 ++
      groups.drop (runStart groups + longestRun groups)) := by
  rw [← List.drop_drop, replicate_append_drop (zerosAt_runStart h), List.take_append_drop]

/-! ## Between the colons -/

/-- What stands between the colons on one side of the gap; nothing at all stands there once. -/
def side (groups : List Nat) : List (List Char) :=
  if groups = [] then [[]] else groups.map (Nat.toDigits 16)

theorem side_ne_nil (groups : List Nat) : side groups ≠ [] := by
  unfold side
  split <;> simp_all

theorem toList_joined (groups : List Nat) :
    (joined groups).toList = [':'].intercalate (groups.map (Nat.toDigits 16)) := by
  rw [joined, String.toList_intercalate, List.map_map]
  congr 1
  refine List.map_congr_left fun g _ => ?_
  simp

theorem toList_joined_side (groups : List Nat) :
    (joined groups).toList = [':'].intercalate (side groups) := by
  rw [toList_joined, side]
  split
  · rename_i h
    subst h
    rfl
  · rfl

theorem toList_gap (front back : List Nat) :
    (joined front ++ "::" ++ joined back).toList =
      [':'].intercalate (side front ++ [] :: side back) := by
  rw [intercalate_append _ (side_ne_nil front) (by simp),
    List.intercalate_cons_of_ne_nil (side_ne_nil back), String.toList_append,
    String.toList_append, toList_joined_side, toList_joined_side]
  simp

theorem colon_not_mem_toDigits (g : Nat) : ':' ∉ Nat.toDigits 16 g :=
  Digits.not_mem_toDigits (by omega) (by omega) (by decide) g

theorem colon_not_mem_side {groups : List Nat} : ∀ piece ∈ side groups, ':' ∉ piece := by
  intro piece hpiece
  unfold side at hpiece
  split at hpiece
  · simp_all
  · obtain ⟨g, -, rfl⟩ := List.mem_map.mp hpiece
    exact colon_not_mem_toDigits g

/-- **What stands between the colons of a compressed text**: the groups in front of the gap, nothing
in the gap, and the groups behind it; or all groups. -/
theorem split_compressed {groups : List Nat} (hne : groups ≠ []) :
    List.splitOn ':' (compressed groups).toList =
      if 1 < longestRun groups then
        side (groups.take (runStart groups)) ++
          [] :: side (groups.drop (runStart groups + longestRun groups))
      else groups.map (Nat.toDigits 16) := by
  rw [compressed]
  split
  · rw [toList_gap]
    refine List.splitOn_intercalate ':' ?_ (by simp)
    intro piece hpiece
    rcases List.mem_append.mp hpiece with h | h
    · exact colon_not_mem_side piece h
    · rcases List.mem_cons.mp h with rfl | h
      · simp
      · exact colon_not_mem_side piece h
  · rw [toList_joined]
    refine List.splitOn_intercalate ':' ?_ (by simpa using hne)
    intro piece hpiece
    obtain ⟨g, -, rfl⟩ := List.mem_map.mp hpiece
    exact colon_not_mem_toDigits g

/-! ## Filling the gap -/

/-- The pieces of a text with the gap filled: what is left out makes up for eight groups. -/
def expand (pieces : List (List Char)) : List (List Char) :=
  -- a gap at an end of the text leaves two empty pieces there, so both sides stop at the first
  let front := pieces.takeWhile (· ≠ [])
  let back := pieces.rtakeWhile (· ≠ [])
  if [] ∈ pieces then
    front ++ List.replicate (8 - (front.length + back.length)) [] ++ back
  else pieces

/-- The groups that a text names. -/
def readGroups (text : List Char) : List Nat :=
  (expand (List.splitOn ':' text)).map (Digits.read 16)

theorem ne_nil_of_digits (groups : List Nat) :
    ∀ piece ∈ groups.map (Nat.toDigits 16), decide (piece ≠ []) = true := by
  intro piece hpiece
  obtain ⟨g, -, rfl⟩ := List.mem_map.mp hpiece
  exact decide_eq_true (Digits.toDigits_ne_nil (by omega) g)

theorem takeWhile_side (groups : List Nat) (rest : List (List Char)) :
    (side groups ++ [] :: rest).takeWhile (· ≠ []) = groups.map (Nat.toDigits 16) := by
  unfold side
  split
  · rename_i h
    subst h
    simp
  · rw [List.takeWhile_append_of_pos (ne_nil_of_digits groups)]
    simp

theorem rtakeWhile_side (groups : List Nat) (rest : List (List Char)) :
    (rest ++ [] :: side groups).rtakeWhile (· ≠ []) = groups.map (Nat.toDigits 16) := by
  unfold side
  split
  · rename_i h
    subst h
    simp [List.rtakeWhile]
  · rw [List.rtakeWhile, List.reverse_append, List.reverse_cons, List.append_assoc,
      List.takeWhile_append_of_pos]
    · simp
    · intro piece hpiece
      exact ne_nil_of_digits groups piece (List.mem_reverse.mp hpiece)

/-- **The groups left out are filled in again.** -/
theorem expand_split {groups : List Nat} (h8 : groups.length = 8) :
    (expand (List.splitOn ':' (compressed groups).toList)).map (Digits.read 16) = groups := by
  have hread : ∀ gs : List Nat, (gs.map (Nat.toDigits 16)).map (Digits.read 16) = gs := by
    intro gs
    rw [List.map_map]
    refine (List.map_congr_left fun g _ => ?_).trans (List.map_id gs)
    exact Digits.read_toDigits (by omega) (by omega) g
  have hne : groups ≠ [] := by
    rintro rfl
    cases h8
  rw [split_compressed hne, expand]
  split
  · rename_i hrun
    have hgroups := groups_eq (Nat.zero_lt_of_lt hrun)
    have hlen := congrArg List.length hgroups
    rw [takeWhile_side, rtakeWhile_side, if_pos (by simp)]
    simp only [List.length_append, List.length_replicate, h8] at hlen
    simp only [List.map_append, hread, List.map_replicate, List.length_map]
    have hcount : 8 - ((groups.take (runStart groups)).length +
        (groups.drop (runStart groups + longestRun groups)).length) = longestRun groups := by
      omega
    rw [hcount, List.append_assoc]
    exact hgroups.symm
  · have hnil : ¬ [] ∈ groups.map (Nat.toDigits 16) := by
      intro hmem
      simpa using ne_nil_of_digits groups _ hmem
    rw [if_neg hnil, hread]

/-! ## Octets -/

/-- The octets of groups. -/
def octetsOfGroups (groups : List Nat) : Bytes :=
  groups.flatMap fun g => [UInt8.ofNat (g / 256), UInt8.ofNat (g % 256)]

theorem octetsOfGroups_groupsOf :
    ∀ octets : Bytes, octets.length % 2 = 0 → octetsOfGroups (groupsOf octets) = octets
  | [], _ => rfl
  | [_], h => by simp at h
  | high :: low :: rest, h => by
    have hlow := low.toNat_lt
    have hdiv : (256 * high.toNat + low.toNat) / 256 = high.toNat := by omega
    have hmod : (256 * high.toNat + low.toNat) % 256 = low.toNat := by omega
    have ih := octetsOfGroups_groupsOf rest (by simp only [List.length_cons] at h; omega)
    rw [octetsOfGroups] at ih
    rw [groupsOf, octetsOfGroups, List.flatMap_cons, ih, hdiv, hmod, UInt8.ofNat_toNat,
      UInt8.ofNat_toNat]
    rfl

theorem length_groupsOf : ∀ octets : Bytes, (groupsOf octets).length = octets.length / 2
  | [] => by simp [groupsOf]
  | [_] => by simp [groupsOf]
  | _ :: _ :: rest => by
    rw [groupsOf, List.length_cons, length_groupsOf rest, List.length_cons, List.length_cons]
    omega

/-! ## Texts -/

theorem dot_not_mem_joined (groups : List Nat) : '.' ∉ (joined groups).toList := by
  intro h
  rw [toList_joined] at h
  rcases mem_intercalate h with h | ⟨piece, hpiece, h⟩
  · simp at h
  · obtain ⟨g, -, rfl⟩ := List.mem_map.mp hpiece
    exact Digits.not_mem_toDigits (by omega) (by omega) (by decide) g h

theorem dot_not_mem_compressed (groups : List Nat) : '.' ∉ (compressed groups).toList := by
  rw [compressed]
  split
  · simp [String.toList_append, dot_not_mem_joined]
  · exact dot_not_mem_joined groups

/-- The address that a text names. -/
def ofText (text : String) : Ipv6 :=
  if '.' ∈ text.toList then
    ⟨[0, 0, 0, 0, 0, 0, 0, 0, 0, 0, 0xFF, 0xFF] ++ Ipv4.octetsOf (text.toList.drop 7)⟩
  else ⟨octetsOfGroups (readGroups text.toList)⟩

theorem dot_mem_dotted {octets : Bytes} (h : 1 < octets.length) :
    '.' ∈ (Ipv4.dotted octets).toList := by
  match octets, h with
  | o :: o' :: octets, _ =>
    rw [Ipv4.toList_dotted, List.map_cons, List.map_cons, List.intercalate_cons_cons]
    simp

/-- **An address is read back from its text**, so different addresses have different texts. -/
theorem ofText_text {address : Ipv6} (h : address.octets.length = 16) :
    ofText address.text = address := by
  obtain ⟨octets⟩ := address
  rw [text, ofText]
  split
  · rename_i hmapped
    have hlen : (octets.drop 12).length = 4 := by
      simp only [List.length_drop] at h ⊢
      omega
    have hprefix : octets.take 12 = [0, 0, 0, 0, 0, 0, 0, 0, 0, 0, 0xFF, 0xFF] := by
      simpa [isMapped] using hmapped
    have hdrop : ("::ffff:" ++ Ipv4.dotted (octets.drop 12)).toList.drop 7 =
        (Ipv4.dotted (octets.drop 12)).toList := by
      rw [String.toList_append]
      exact List.drop_left' rfl
    have hdot : '.' ∈ (Ipv4.dotted (octets.drop 12)).toList := dot_mem_dotted (by omega)
    rw [if_pos (by rw [String.toList_append]; exact List.mem_append_right _ hdot), hdrop,
      Ipv4.octetsOf_dotted (List.ne_nil_of_length_pos (by omega)), ← hprefix,
      List.take_append_drop]
  · have h8 : (groupsOf octets).length = 8 := by
      rw [length_groupsOf, h]
    rw [if_neg (dot_not_mem_compressed _), readGroups, groups, expand_split h8,
      octetsOfGroups_groupsOf _ (by rw [h])]

end Ipv6

end Tracepoint
