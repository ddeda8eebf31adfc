import GlyphScript.Table

/-!
# The theory of tables

An ordered table is determined by its entries (`eq_of_perm`) and by what is found
under each name (`eq_of_find?`). Insertion keeps the order, and a table built
from pairs with distinct names holds exactly these pairs. A table extended by
another is their union, in which the second one wins (`find?_extend`).
-/

namespace GlyphScript.Table

variable {α : Type}

theorem lt_of_not_lt {left right : String} (notBelow : ¬ left < right)
    (different : left ≠ right) : right < left := by
  apply Decidable.byContradiction
  intro notAbove
  exact different (String.le_antisymm notAbove notBelow)

/-! ## Names and entries -/

theorem mem_names_of_mem {table : Table α} {pair : String × α} (member : pair ∈ table) :
    pair.1 ∈ table.names :=
  List.mem_map_of_mem member

theorem mem_of_find? {table : Table α} {name : String} {entry : α}
    (found : table.find? name = some entry) : (name, entry) ∈ table := by
  induction table with
  | nil => simp at found
  | cons head rest ih =>
      obtain ⟨other, first⟩ := head
      by_cases same : name = other
      · subst same
        simp only [find?, if_true, Option.some.injEq] at found
        subst found
        exact List.mem_cons_self
      · simp only [find?, same, if_false] at found
        exact List.mem_cons_of_mem _ (ih found)

theorem find?_of_mem {table : Table α} (distinct : table.names.Nodup) {name : String} {entry : α}
    (member : (name, entry) ∈ table) : table.find? name = some entry := by
  induction table with
  | nil => simp at member
  | cons head rest ih =>
      obtain ⟨other, first⟩ := head
      simp only [names, List.map_cons, List.nodup_cons] at distinct
      rcases List.mem_cons.mp member with equal | inRest
      · cases equal
        simp [find?]
      · have different : name ≠ other := by
          intro same
          subst same
          exact distinct.1 (mem_names_of_mem inRest)
        simp [find?, different, ih distinct.2 inRest]

theorem find?_eq_none_iff {table : Table α} {name : String} :
    table.find? name = none ↔ name ∉ table.names := by
  induction table with
  | nil => simp [names]
  | cons head rest ih =>
      obtain ⟨other, first⟩ := head
      by_cases same : name = other
      · simp [find?, names, same]
      · simp only [find?, same, if_false, ih]
        simp [names, same]

/-! ## Order -/

theorem Ordered.names_nodup {table : Table α} (ordered : table.Ordered) : table.names.Nodup := by
  refine List.pairwise_map.mpr (List.Pairwise.imp ?_ ordered)
  intro left right below same
  rw [same] at below
  exact String.lt_irrefl _ below

theorem Ordered.nodup {table : Table α} (ordered : table.Ordered) : table.Nodup := by
  refine (List.pairwise_map.mp ordered.names_nodup).imp ?_
  intro left right different same
  exact different (congrArg Prod.fst same)

/-- Two ordered tables with the same entries are the same table. -/
theorem eq_of_perm {left right : Table α} (leftOrdered : left.Ordered)
    (rightOrdered : right.Ordered) (same : left.Perm right) : left = right := by
  refine List.Perm.eq_of_pairwise ?_ leftOrdered rightOrdered same
  intro a b _ _ below above
  exact absurd above (String.lt_asymm below)

theorem mem_insert {table : Table α} {name : String} {entry : α} {pair : String × α}
    (member : pair ∈ table.insert name entry) : pair = (name, entry) ∨ pair ∈ table := by
  induction table with
  | nil =>
      exact .inl (List.mem_singleton.mp member)
  | cons head rest ih =>
      obtain ⟨other, previous⟩ := head
      unfold insert at member
      split at member
      · exact List.mem_cons.mp member
      · split at member
        · rcases List.mem_cons.mp member with equal | inRest
          · exact .inl equal
          · exact .inr (List.mem_cons_of_mem _ inRest)
        · rcases List.mem_cons.mp member with equal | inRest
          · exact .inr (equal ▸ List.mem_cons_self)
          · exact (ih inRest).imp id (List.mem_cons_of_mem _)

theorem Ordered.insert {table : Table α} (ordered : table.Ordered) (name : String) (entry : α) :
    (table.insert name entry).Ordered := by
  induction table with
  | nil => exact List.pairwise_singleton _ _
  | cons head rest ih =>
      obtain ⟨other, previous⟩ := head
      obtain ⟨above, restOrdered⟩ := List.pairwise_cons.mp ordered
      unfold Table.insert
      split
      · next below =>
          refine List.pairwise_cons.mpr ⟨?_, ordered⟩
          intro pair member
          rcases List.mem_cons.mp member with equal | inRest
          · exact equal ▸ below
          · exact String.lt_trans below (above pair inRest)
      · next notBelow =>
          split
          · next same =>
              refine List.pairwise_cons.mpr ⟨?_, restOrdered⟩
              intro pair inRest
              exact same ▸ above pair inRest
          · next different =>
              refine List.pairwise_cons.mpr ⟨?_, ih restOrdered⟩
              intro pair member
              rcases mem_insert member with equal | inRest
              · exact equal ▸ lt_of_not_lt notBelow different
              · exact above pair inRest

theorem Ordered.extend {table : Table α} (ordered : table.Ordered) (pairs : List (String × α)) :
    (table.extend pairs).Ordered := by
  induction pairs generalizing table with
  | nil => exact ordered
  | cons pair rest ih => exact ih (ordered.insert pair.1 pair.2)

theorem Ordered.erase {table : Table α} (ordered : table.Ordered) (name : String) :
    (table.erase name).Ordered :=
  List.Pairwise.sublist List.filter_sublist ordered

/-- Removal takes away exactly one name. -/
theorem find?_erase (table : Table α) (name other : String) :
    (table.erase name).find? other = if other = name then none else table.find? other := by
  induction table with
  | nil => simp [Table.erase]
  | cons head rest ih =>
      obtain ⟨key, entry⟩ := head
      rw [Table.erase] at ih ⊢
      by_cases removed : key = name
      · rw [List.filter_cons_of_neg (by simp [removed]), ih, find?]
        split
        · rfl
        · next different => rw [if_neg (removed ▸ different)]
      · rw [List.filter_cons_of_pos (by simp [removed]), find?, find?, ih]
        split
        · next same => rw [if_neg (same ▸ removed)]
        · rfl

/-- Replacing an entry changes no names. -/
theorem names_insert_of_contains {table : Table α} (ordered : table.Ordered) {name : String}
    (present : table.contains name = true) (entry : α) :
    (table.insert name entry).names = table.names := by
  induction table with
  | nil => cases present
  | cons head rest ih =>
      obtain ⟨other, previous⟩ := head
      obtain ⟨above, restOrdered⟩ := List.pairwise_cons.mp ordered
      unfold Table.insert
      by_cases same : name = other
      · rw [if_neg (same ▸ String.lt_irrefl other), if_pos same, same]
        rfl
      · -- The name stands further on, so it is above the first one.
        rw [contains, find?, if_neg same] at present
        obtain ⟨found, isFound⟩ := Option.isSome_iff_exists.mp present
        have below : other < name := above _ (mem_of_find? isFound)
        rw [if_neg (String.lt_asymm below), if_neg same]
        exact congrArg (other :: ·) (ih restOrdered present)

/-- Two ordered tables with the same entry under every name are the same table. -/
theorem eq_of_find? {left right : Table α} (leftOrdered : left.Ordered)
    (rightOrdered : right.Ordered) (same : ∀ name, left.find? name = right.find? name) :
    left = right := by
  refine eq_of_perm leftOrdered rightOrdered
    ((List.perm_ext_iff_of_nodup leftOrdered.nodup rightOrdered.nodup).mpr ?_)
  rintro ⟨name, entry⟩
  constructor
  · intro member
    apply mem_of_find?
    rw [← same, find?_of_mem leftOrdered.names_nodup member]
  · intro member
    apply mem_of_find?
    rw [same, find?_of_mem rightOrdered.names_nodup member]

theorem ordered_ofList (pairs : List (String × α)) : (ofList pairs).Ordered :=
  Ordered.extend List.Pairwise.nil pairs

/-! ## Tables from pairs -/

theorem insert_perm {table : Table α} {name : String} (absent : name ∉ table.names) (entry : α) :
    (table.insert name entry).Perm ((name, entry) :: table) := by
  induction table with
  | nil => exact List.Perm.refl _
  | cons head rest ih =>
      obtain ⟨other, previous⟩ := head
      simp only [names, List.map_cons, List.mem_cons, not_or] at absent
      unfold insert
      split
      · exact List.Perm.refl _
      · rw [if_neg absent.1]
        exact ((ih absent.2).cons _).trans (List.Perm.swap _ _ _)

theorem extend_perm {table : Table α} {pairs : List (String × α)}
    (distinct : (names table ++ names pairs).Nodup) :
    (table.extend pairs).Perm (table ++ pairs) := by
  induction pairs generalizing table with
  | nil => simp [extend]
  | cons pair rest ih =>
      obtain ⟨name, entry⟩ := pair
      have moved : (names ((name, entry) :: table) ++ names rest).Nodup := by
        simp only [names, List.map_cons] at distinct ⊢
        exact (List.perm_middle.nodup_iff).mp distinct
      have absent : name ∉ names table := by
        simp only [names, List.map_cons, List.cons_append, List.nodup_cons, List.mem_append,
          not_or] at moved
        exact moved.1.1
      have inserted := insert_perm absent entry
      have insertedDistinct : (names (table.insert name entry) ++ names rest).Nodup :=
        (((inserted.map Prod.fst).append_right _).nodup_iff).mpr moved
      calc
        table.extend ((name, entry) :: rest) = (table.insert name entry).extend rest := rfl
        List.Perm _ (table.insert name entry ++ rest) := ih insertedDistinct
        List.Perm _ ((name, entry) :: table ++ rest) := inserted.append_right rest
        List.Perm _ (table ++ (name, entry) :: rest) := List.perm_middle.symm

/-- Pairs with distinct names all stand in the table. -/
theorem ofList_perm {pairs : List (String × α)} (distinct : (names pairs).Nodup) :
    (ofList pairs).Perm pairs :=
  @extend_perm α [] pairs distinct

theorem find?_ofList {pairs : List (String × α)} (distinct : (names pairs).Nodup) (name : String) :
    (ofList pairs).find? name = find? pairs name := by
  have perm := ofList_perm distinct
  cases found : find? pairs name with
  | none =>
      rw [find?_eq_none_iff] at found ⊢
      exact fun member => found ((perm.map Prod.fst).mem_iff.mp member)
  | some entry =>
      have member := perm.mem_iff.mpr (mem_of_find? found)
      exact find?_of_mem (ordered_ofList pairs).names_nodup member

theorem ofList_of_ordered {table : Table α} (ordered : table.Ordered) : ofList table = table :=
  eq_of_perm (ordered_ofList table) ordered (ofList_perm ordered.names_nodup)

/-- Two orders of the same pairs are equal if the names are in the same order. -/
theorem eq_of_perm_of_names {left right : Table α} (perm : left.Perm right)
    (sameNames : left.names = right.names) (distinct : left.names.Nodup) : left = right := by
  induction left generalizing right with
  | nil => exact (List.nil_perm.mp perm).symm
  | cons first rest ih =>
      cases right with
      | nil => exact List.perm_nil.mp perm
      | cons other others =>
          obtain ⟨sameName, sameRest⟩ := List.cons.inj sameNames
          have distinctOthers := sameNames ▸ distinct
          simp only [names, List.map_cons, List.nodup_cons] at distinct distinctOthers
          have equal : first = other := by
            rcases List.mem_cons.mp (perm.mem_iff.mp List.mem_cons_self) with equal | inOthers
            · exact equal
            · exact absurd (sameName ▸ mem_names_of_mem inOthers) distinctOthers.1
          subst equal
          rw [ih perm.cons_inv sameRest distinct.2]

theorem mem_extend {table : Table α} {pairs : List (String × α)} {pair : String × α}
    (member : pair ∈ table.extend pairs) : pair ∈ table ∨ pair ∈ pairs := by
  induction pairs generalizing table with
  | nil => exact .inl member
  | cons head rest ih =>
      rcases @ih (table.insert head.1 head.2) member with inTable | inRest
      · rcases mem_insert inTable with equal | old
        · exact .inr (equal ▸ List.mem_cons_self)
        · exact .inl old
      · exact .inr (List.mem_cons_of_mem _ inRest)

theorem mem_of_mem_ofList {pairs : List (String × α)} {pair : String × α}
    (member : pair ∈ ofList pairs) : pair ∈ pairs := by
  rcases mem_extend member with inEmpty | inPairs
  · simp at inEmpty
  · exact inPairs

/-- The last pair of a name wins, also over what the table had before. -/
theorem find?_extend_pairs (table : Table α) (pairs : List (String × α)) (name : String) :
    (table.extend pairs).find? name =
      ((pairs.filter fun pair => pair.1 = name).getLast?.map Prod.snd).or (table.find? name) := by
  induction pairs generalizing table with
  | nil => rfl
  | cons pair rest ih =>
      have step : table.extend (pair :: rest) = (table.insert pair.1 pair.2).extend rest := rfl
      rw [step, ih, find?_insert]
      by_cases same : pair.1 = name
      · rw [List.filter_cons_of_pos (by simp [same]), List.getLast?_cons, if_pos same.symm]
        cases (rest.filter fun pair => pair.1 = name).getLast? with
        | none => rfl
        | some last => rfl
      · rw [List.filter_cons_of_neg (by simp [same]), if_neg (Ne.symm same)]

theorem contains_extend (table : Table α) (pairs : List (String × α)) {name : String}
    (present : table.contains name = true) : (table.extend pairs).contains name = true := by
  rw [contains, find?_extend_pairs, Option.isSome_or, Bool.or_eq_true]
  exact .inr present

/-! ## The union of two tables, in which the entries of the second one win -/

theorem find?_extend (left : Table α) {right : Table α} (ordered : right.Ordered)
    (name : String) : (left.extend right).find? name = (right.find? name).or (left.find? name) := by
  induction right generalizing left with
  | nil => rfl
  | cons head rest ih =>
      obtain ⟨other, entry⟩ := head
      obtain ⟨above, restOrdered⟩ := List.pairwise_cons.mp ordered
      have step := ih (left.insert other entry) restOrdered
      rw [find?_insert] at step
      show ((left.insert other entry).extend rest).find? name = _
      by_cases same : name = other
      · subst same
        have absent : name ∉ names rest := by
          intro inRest
          obtain ⟨pair, member, named⟩ := List.mem_map.mp inRest
          exact String.lt_irrefl _ (named ▸ above pair member)
        rw [find?_eq_none_iff.mpr absent, if_pos rfl] at step
        rw [step, find?, if_pos rfl]
        rfl
      · rw [if_neg same] at step
        rw [step, find?, if_neg same]

/-- What is added to a union is added to its second table. -/
theorem insert_extend {left right : Table α} (leftOrdered : left.Ordered)
    (rightOrdered : right.Ordered) (name : String) (entry : α) :
    (left.extend right).insert name entry = left.extend (right.insert name entry) := by
  have inserted := rightOrdered.insert name entry
  refine eq_of_find? ((leftOrdered.extend right).insert name entry) (leftOrdered.extend _) ?_
  intro other
  rw [find?_insert, find?_extend left rightOrdered, find?_extend left inserted, find?_insert]
  by_cases same : other = name
  · rw [if_pos same, if_pos same]
    rfl
  · rw [if_neg same, if_neg same]

/-! ## Tables with their entries changed -/

theorem find?_mapEntries {β : Type} (f : α → β) (table : Table α) (name : String) :
    (table.mapEntries f).find? name = (table.find? name).map f := by
  induction table with
  | nil => rfl
  | cons head rest ih =>
      show find? ((head.1, f head.2) :: mapEntries f rest) name = _
      rw [find?, find?, ih]
      by_cases same : name = head.1
      · rw [if_pos same, if_pos same]
        rfl
      · rw [if_neg same, if_neg same]

theorem names_mapEntries {β : Type} (f : α → β) (table : Table α) :
    (table.mapEntries f).names = table.names := by
  rw [names, mapEntries, List.map_map]
  rfl

theorem entries_mapEntries {β : Type} (f : α → β) (table : Table α) :
    (table.mapEntries f).entries = table.entries.map f := by
  rw [entries, mapEntries, List.map_map, entries, List.map_map]
  rfl

end GlyphScript.Table
