import Mathlib.Algebra.BigOperators.Group.List.Lemmas
import Mathlib.Data.List.Dedup
import Mathlib.Data.List.Perm.Basic
import GlyphScript.Proofs.Library.Suggestions

/-!
# Continuations

Counted windows can go on behind the item that follows the given texts. A suggestion is made
for each different window, so an item is suggested once for each way of going on from it.

Results:
1. `counted_perm`: the table has one entry for each different window.
2. `listedByWindow`: with which counts an item is suggested.
3. `distinct_iff`, `total_iff`: when each item is suggested only once, and when with the count
   of all its windows.
-/

namespace GlyphScript.Library

/-! ## Different windows -/

theorem Readable.counted_perm {observed : List (List String)} (readable : Readable observed) :
    (counted (observed.map textGram)).Perm
      (observed.dedup.map fun window => (textGram window, observed.count window)) := by
  have distinct : (observed.dedup.map fun window =>
      (textGram window, observed.count window)).Nodup := by
    refine observed.nodup_dedup.map_on fun window member other otherMember same => ?_
    exact (readable.textGram_inj (List.mem_dedup.mp member) (List.mem_dedup.mp otherMember)).mp
      (congrArg Prod.fst same)
  have distinctCounted : (counted (observed.map textGram)).Nodup :=
    (ordered_counted _).names_nodup.of_map _
  refine (List.perm_ext_iff_of_nodup distinctCounted distinct).mpr ?_
  rintro ⟨gram, count⟩
  rw [mem_counted_iff, List.mem_map, List.mem_map]
  constructor
  · rintro ⟨⟨window, member, rfl⟩, rfl⟩
    exact ⟨window, List.mem_dedup.mpr member, by rw [readable.count_textGram member]⟩
  · rintro ⟨window, member, same⟩
    cases same
    have present := List.mem_dedup.mp member
    exact ⟨⟨window, present, rfl⟩, (readable.count_textGram present).symm⟩

/-- The counts with which an item is in a list. -/
def countsOf (item : String) (found : List (String × Nat)) : List Nat :=
  (found.filter fun entry => entry.1 = item).map Prod.snd

theorem countsOf_perm (item : String) {found others : List (String × Nat)}
    (same : found.Perm others) : (countsOf item found).Perm (countsOf item others) :=
  (same.filter _).map _

theorem mem_countsOf_iff {item : String} {count : Nat} {found : List (String × Nat)} :
    count ∈ countsOf item found ↔ (item, count) ∈ found := by
  simp [countsOf]

theorem length_countsOf (item : String) (found : List (String × Nat)) :
    (countsOf item found).length = (found.map Prod.fst).count item := by
  rw [countsOf, List.length_map, List.count, List.countP_map, List.countP_eq_length_filter]
  rfl

theorem countsOf_candidates (given : List String) (item : String) (table : Table Nat) :
    countsOf item (candidates given table) =
      (table.filter fun entry => following? given entry.1 = some item).map Prod.snd := by
  induction table with
  | nil => rfl
  | cons entry rest ih =>
      rw [countsOf, candidates] at ih ⊢
      cases follows : following? given entry.1 with
      | none => simp [follows, ih]
      | some next =>
          by_cases same : next = item
          · simp [follows, same, ih]
          · simp [follows, same, ih]

/-- The different windows that start with the given texts and then the item. -/
def goingOn (given : List String) (seen : List (List String)) (item : String) :
    List (List String) :=
  seen.dedup.filter fun window => (given ++ [item]).isPrefixOf window

theorem mem_goingOn_iff {given : List String} {seen : List (List String)} {item : String}
    {window : List String} :
    window ∈ goingOn given seen item ↔ window ∈ seen ∧ given ++ [item] <+: window := by
  rw [goingOn, List.mem_filter, List.mem_dedup, List.isPrefixOf_iff_prefix]

theorem sum_goingOn (given : List String) (seen : List (List String)) (item : String) :
    ((goingOn given seen item).map seen.count).sum =
      seen.countP (given ++ [item]).isPrefixOf := by
  rw [goingOn, ← List.sum_map_count_dedup_filter_eq_countP]
  congr!

/-- Windows that agree up to one item behind the given texts are the same. -/
def OneWay (given : List String) (seen : List (List String)) : Prop :=
  ∀ item, ∀ window ∈ seen, ∀ other ∈ seen,
    given ++ [item] <+: window → given ++ [item] <+: other → window = other

theorem oneWay_iff {given : List String} {seen : List (List String)} :
    OneWay given seen ↔ ∀ item, (goingOn given seen item).length ≤ 1 := by
  refine forall_congr' fun item => ?_
  have distinct : (goingOn given seen item).Nodup := seen.nodup_dedup.filter _
  rw [← List.toFinset_card_of_nodup distinct, Finset.card_le_one_iff]
  simp only [List.mem_toFinset, mem_goingOn_iff]
  constructor
  · rintro oneWay window other ⟨member, starts⟩ ⟨otherMember, otherStarts⟩
    exact oneWay window member other otherMember starts otherStarts
  · intro same window member other otherMember starts otherStarts
    exact same ⟨member, starts⟩ ⟨otherMember, otherStarts⟩

/-! ## Lists by window -/

/-- Each item is listed for all different windows that go on with it, with the count of each. -/
def ListedByWindow (given : List String) (seen : List (List String))
    (found : List (String × Nat)) : Prop :=
  ∀ item, (countsOf item found).Perm ((goingOn given seen item).map seen.count)

theorem Readable.listedByWindow {seen : List (List String)} (readable : Readable seen)
    (given : List String) :
    ListedByWindow given seen (ranked (candidates given (counted (seen.map textGram)))) := by
  intro item
  refine (countsOf_perm item (ranked_perm _)).trans ?_
  rw [countsOf_candidates]
  refine ((readable.counted_perm.filter _).map _).trans (.of_eq ?_)
  rw [List.filter_map, List.map_map, goingOn]
  congr 1
  refine List.filter_congr fun window member => ?_
  obtain ⟨nonempty, separate⟩ := readable window (List.mem_dedup.mp member)
  simp only [Function.comp_apply, following?_textGram_iff nonempty separate,
    ← List.isPrefixOf_iff_prefix, Bool.decide_eq_true]

namespace ListedByWindow

variable {given : List String} {seen : List (List String)} {found : List (String × Nat)}

theorem sum_eq (listed : ListedByWindow given seen found) (item : String) :
    (countsOf item found).sum = seen.countP (given ++ [item]).isPrefixOf := by
  rw [(listed item).sum_eq, sum_goingOn]

theorem length_eq (listed : ListedByWindow given seen found) (item : String) :
    (countsOf item found).length = (goingOn given seen item).length := by
  rw [(listed item).length_eq, List.length_map]

theorem distinct_iff (listed : ListedByWindow given seen found) :
    (found.map Prod.fst).Nodup ↔ OneWay given seen := by
  rw [List.nodup_iff_count_le_one, oneWay_iff]
  simp only [← length_countsOf, listed.length_eq]

/-- An item that is listed twice has the count of all its windows in neither place. -/
theorem total_iff (listed : ListedByWindow given seen found) :
    (∀ item count, (item, count) ∈ found → count = seen.countP (given ++ [item]).isPrefixOf) ↔
      OneWay given seen := by
  constructor
  · intro total item window member other otherMember starts otherStarts
    have counts := (listed item).mem_iff.mpr
      (List.mem_map_of_mem (mem_goingOn_iff.mpr ⟨member, starts⟩))
    have all := total item _ (mem_countsOf_iff.mp counts)
    rw [← List.isPrefixOf_iff_prefix] at starts otherStarts
    rw [← List.count_filter starts, List.countP_eq_length_filter, List.count_eq_length] at all
    exact all other (List.mem_filter.mpr ⟨otherMember, otherStarts⟩)
  · intro oneWay item count member
    rw [← mem_countsOf_iff] at member
    -- The item is listed once, so that its only count is the sum.
    have single : (countsOf item found).length ≤ 1 := by
      rw [listed.length_eq]
      exact oneWay_iff.mp oneWay item
    obtain ⟨only, same⟩ := List.length_eq_one_iff.mp
      (single.antisymm (List.length_pos_of_mem member))
    rw [← listed.sum_eq]
    rw [same] at member ⊢
    rw [List.mem_singleton.mp member, List.sum_singleton]

end ListedByWindow

end GlyphScript.Library
