import Mathlib.Algebra.BigOperators.Group.List.Lemmas
import Mathlib.Data.List.Infix
import GlyphScript.Proofs.Decimal.Comparison
import GlyphScript.Proofs.Library.Effects

/-!
# Counting grams

Counting keeps a table from grams to the number of their occurrences. The table is known
from what is found in it, so it does not depend on the order in which grams were counted.

Results:
1. `find?_counted`, `counted_of_perm`, `sum_counted`: what is stored of counted grams.
2. `length_windows`, `count_windows`: how many windows there are, and how many of them are
   the same.
3. `windowAsked_windowSize`: which windows a request asks for.
-/

namespace GlyphScript.Library

/-! ## Counts -/

/-- The table of grams that were counted one after the other. -/
def counted (grams : List String) : Table Nat :=
  grams.foldl countGram []

theorem ordered_foldl_countGram {table : Table Nat} (ordered : table.Ordered)
    (grams : List String) : (grams.foldl countGram table).Ordered := by
  induction grams generalizing table with
  | nil => exact ordered
  | cons first rest ih => exact ih (ordered.insert first _)

theorem ordered_counted (grams : List String) : (counted grams).Ordered :=
  ordered_foldl_countGram .nil grams

theorem counted_append (grams more : List String) :
    counted (grams ++ more) = more.foldl countGram (counted grams) :=
  List.foldl_append

/-- A gram is stored if it was counted, with the number of its occurrences. -/
theorem find?_counted (grams : List String) (gram : String) :
    (counted grams).find? gram = if gram ∈ grams then some (grams.count gram) else none := by
  induction grams using List.reverseRecOn with
  | nil => rfl
  | append_singleton others last ih =>
      rw [counted_append, List.foldl_cons, List.foldl_nil, countGram, Table.find?_insert]
      by_cases same : gram = last
      · subst same
        rw [if_pos rfl, ih]
        by_cases before : gram ∈ others
        · simp [before]
        · simp [before, List.count_eq_zero_of_not_mem before]
      · rw [if_neg same, ih]
        simp [same, Ne.symm same]

theorem counted_of_perm {grams others : List String} (perm : grams.Perm others) :
    counted grams = counted others := by
  refine Table.eq_of_find? (ordered_counted grams) (ordered_counted others) fun gram => ?_
  rw [find?_counted, find?_counted, perm.count_eq]
  simp only [perm.mem_iff]

theorem sum_entries_cons (name : String) (count : Nat) (rest : Table Nat) :
    (Table.entries ((name, count) :: rest)).sum = count + rest.entries.sum :=
  List.sum_cons

theorem sum_insert {table : Table Nat} (ordered : table.Ordered) (name : String) (count : Nat) :
    (table.insert name count).entries.sum + (table.find? name).getD 0 =
      table.entries.sum + count := by
  induction table with
  | nil => exact Nat.add_comm _ _
  | cons head rest ih =>
      obtain ⟨other, before⟩ := head
      obtain ⟨above, restOrdered⟩ := List.pairwise_cons.mp ordered
      unfold Table.insert
      split
      · next less =>
          -- The table is ordered, so what is less than its first name is not in it.
          have absent : Table.find? ((other, before) :: rest) name = none := by
            rw [Table.find?_eq_none_iff]
            intro member
            rcases List.mem_cons.mp member with same | later
            · exact String.lt_irrefl name (same ▸ less)
            · obtain ⟨pair, inRest, rfl⟩ := List.mem_map.mp later
              exact String.lt_irrefl _ (String.lt_trans less (above pair inRest))
          rw [absent, sum_entries_cons, Nat.add_comm count]
          rfl
      · split
        · next same =>
            rw [Table.find?, if_pos same, sum_entries_cons, sum_entries_cons, Option.getD_some]
            omega
        · next different =>
            have inRest := ih restOrdered
            rw [Table.find?, if_neg different, sum_entries_cons, sum_entries_cons]
            omega

theorem sum_countGram {table : Table Nat} (ordered : table.Ordered) (gram : String) :
    (countGram table gram).entries.sum = table.entries.sum + 1 := by
  have inserted := sum_insert ordered gram ((table.find? gram).getD 0 + 1)
  rw [countGram]
  omega

theorem sum_counted (grams : List String) : (counted grams).entries.sum = grams.length := by
  induction grams using List.reverseRecOn with
  | nil => rfl
  | append_singleton others last ih =>
      rw [counted_append, List.foldl_cons, List.foldl_nil, sum_countGram (ordered_counted others),
        ih, List.length_append, List.length_singleton]

/-! ## Windows -/

section

variable {α : Type}

theorem length_windows (size : Nat) (items : List α) :
    (windows size items).length = items.length + 1 - size := by
  rw [windows, List.length_map, List.length_range]

theorem windows_map {β : Type} (f : α → β) (size : Nat) (items : List α) :
    windows size (items.map f) = (windows size items).map (List.map f) := by
  simp [windows, Function.comp_def, List.map_drop, List.map_take]

theorem mem_windows {size : Nat} {items window : List α} (member : window ∈ windows size items) :
    window.length = size ∧ window <:+: items := by
  obtain ⟨start, inRange, rfl⟩ := List.mem_map.mp member
  rw [List.mem_range] at inRange
  constructor
  · rw [List.length_take, List.length_drop]
    omega
  · exact (List.take_prefix size _).isInfix.trans (List.drop_suffix start items).isInfix

/-- The first window, if there is one, and those of the other items. -/
theorem windows_cons (size : Nat) (first : α) (rest : List α) :
    windows size (first :: rest) =
      (if size ≤ rest.length + 1 then [(first :: rest).take size] else []) ++
        windows size rest := by
  have behind : (fun start => ((first :: rest).drop start).take size) ∘ Nat.succ =
      fun start => (rest.drop start).take size := rfl
  unfold windows
  rw [List.length_cons]
  split
  · next fits =>
      have more : rest.length + 1 + 1 - size = (rest.length + 1 - size) + 1 := by omega
      rw [more, List.range_succ_eq_map, List.map_cons, List.map_map, behind]
      rfl
  · next long =>
      have none : rest.length + 1 + 1 - size = 0 := by omega
      have noneBehind : rest.length + 1 - size = 0 := by omega
      rw [none, noneBehind]
      rfl

/-- How often a pattern stands somewhere in a list. -/
def occurrences [BEq α] (pattern items : List α) : Nat :=
  items.tails.countP pattern.isPrefixOf

theorem count_windows [BEq α] [LawfulBEq α] (pattern items : List α) :
    (windows pattern.length items).count pattern = occurrences pattern items := by
  induction items with
  | nil =>
      cases pattern with
      | nil => rfl
      | cons c others => simp [windows, occurrences]
  | cons first rest ih =>
      rw [windows_cons, List.count_append, ih, occurrences, occurrences, List.tails,
        List.countP_cons, Nat.add_comm]
      congr 1
      -- The first window is the pattern exactly if the list starts with the pattern.
      by_cases starts : pattern <+: first :: rest
      · have taken := List.prefix_iff_eq_take.mp starts
        have fits : pattern.length ≤ rest.length + 1 := starts.length_le
        rw [if_pos fits, ← taken, if_pos (List.isPrefixOf_iff_prefix.mpr starts)]
        simp
      · rw [if_neg fun isPrefix => starts (List.isPrefixOf_iff_prefix.mp isPrefix)]
        refine List.count_eq_zero_of_not_mem fun member => starts ?_
        split at member
        · rw [List.mem_singleton] at member
          exact List.prefix_iff_eq_take.mpr member
        · cases member

theorem occurrences_pos_iff [BEq α] [LawfulBEq α] {pattern items : List α} :
    0 < occurrences pattern items ↔ pattern <:+: items := by
  rw [occurrences, List.countP_pos_iff]
  simp only [List.mem_tails, List.isPrefixOf_iff_prefix]
  rw [List.infix_iff_prefix_suffix]
  simp only [and_comm]

end

/-! ## Requests -/

/-- The window that a body asks for: its size without the fraction if that is a number from
one on, and three otherwise. -/
inductive WindowAsked (body : Dict) : Nat → Prop
  | given {x : Float} {size : Nat} (number : body.find? "window_size" = some (.number x))
      (least : 1 ≤ x) (cut : Decimal.CutTo x size) : WindowAsked body size
  | usual (missing : ∀ x, body.find? "window_size" = some (.number x) → x.isNaN = true ∨ x < 1) :
      WindowAsked body 3

theorem WindowAsked.one_le {body : Dict} {size : Nat} (asked : WindowAsked body size) :
    1 ≤ size := by
  cases asked with
  | given _ least cut => exact cut.one_le least
  | usual => decide

theorem WindowAsked.unique {body : Dict} {size other : Nat} (asked : WindowAsked body size)
    (again : WindowAsked body other) : size = other := by
  cases asked with
  | given number least cut =>
      cases again with
      | given numberAgain _ cutAgain =>
          cases number.symm.trans numberAgain
          exact cut.unique cutAgain
      | usual missing =>
          exact absurd least ((Decimal.not_le_iff 1 _).mpr (.inr (missing _ number)))
  | usual missing =>
      cases again with
      | given number least _ =>
          exact absurd least ((Decimal.not_le_iff 1 _).mpr (.inr (missing _ number)))
      | usual _ => rfl

theorem windowAsked_windowSize (body : Dict) : WindowAsked body (windowSize body) := by
  unfold windowSize
  split
  · next size number =>
      obtain ⟨value, found, isNumber⟩ := Option.bind_eq_some_iff.mp number
      cases value with
      | number x =>
          cases isNumber
          split
          · next least => exact .given found least (Decimal.cutTo_toNat64 least)
          · next small =>
              refine .usual fun y other => ?_
              rw [found] at other
              cases other
              exact ((Decimal.not_le_iff 1 size).mp small).resolve_left (by decide)
      | _ => cases isNumber
  · next none =>
      refine .usual fun x number => ?_
      rw [number] at none
      cases none

theorem windowAsked_iff {body : Dict} {size : Nat} :
    WindowAsked body size ↔ windowSize body = size := by
  constructor
  · intro asked
    exact (windowAsked_windowSize body).unique asked
  · rintro rfl
    exact windowAsked_windowSize body

/-- The grams that a body has counted: none if it has no list of items. -/
def observedGrams (body : Dict) : List String :=
  match (body.find? "sequence").bind Value.list? with
  | some items => (windows (windowSize body) items).map gramOf
  | none => []

/-- How many windows the items of a body have. -/
def windowCount (body : Dict) : Nat :=
  match (body.find? "sequence").bind Value.list? with
  | some items => items.length + 1 - windowSize body
  | none => 0

theorem length_observedGrams (body : Dict) : (observedGrams body).length = windowCount body := by
  unfold observedGrams windowCount
  cases (body.find? "sequence").bind Value.list? with
  | none => rfl
  | some items => rw [List.length_map, length_windows]

theorem observe_ngrams (body : Dict) (store : Store) :
    (observe body store).2.ngrams = (observedGrams body).foldl countGram store.ngrams := by
  unfold observe observedGrams
  cases (body.find? "sequence").bind Value.list? with
  | none => rfl
  | some items => rfl

end GlyphScript.Library
