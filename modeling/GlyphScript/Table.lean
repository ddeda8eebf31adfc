/-!
# Tables: maps from names to entries, in name order

A table is the list of its entries in strictly ascending order of their names.
Names are compared code point by code point, which is also the order of their
UTF-8 bytes. Every operation below keeps that order, so two tables that hold
the same entries are the same list.
-/

namespace GlyphScript

abbrev Table (α : Type) := List (String × α)

namespace Table

variable {α β : Type}

/-- Names strictly ascend, so no name occurs twice. -/
def Ordered (table : Table α) : Prop :=
  List.Pairwise (fun left right => left.1 < right.1) table

instance (table : Table α) : Decidable (Ordered table) :=
  inferInstanceAs (Decidable (List.Pairwise _ table))

def find? (table : Table α) (name : String) : Option α :=
  match table with
  | [] => none
  | (other, entry) :: rest => if name = other then some entry else find? rest name

def contains (table : Table α) (name : String) : Bool :=
  (table.find? name).isSome

/-- The entry of an existing name is replaced. -/
def insert (table : Table α) (name : String) (entry : α) : Table α :=
  match table with
  | [] => [(name, entry)]
  | (other, previous) :: rest =>
      if name < other then (name, entry) :: (other, previous) :: rest
      else if name = other then (name, entry) :: rest
      else (other, previous) :: insert rest name entry

def erase (table : Table α) (name : String) : Table α :=
  table.filter fun pair => pair.1 ≠ name

/-- Adds the pairs one after the other, so that the last pair of a name wins. -/
def extend (table : Table α) (pairs : List (String × α)) : Table α :=
  pairs.foldl (fun acc pair => acc.insert pair.1 pair.2) table

def ofList (pairs : List (String × α)) : Table α :=
  extend [] pairs

def names (table : Table α) : List String :=
  table.map Prod.fst

def entries (table : Table α) : List α :=
  table.map Prod.snd

def mapEntries (f : α → β) (table : Table α) : Table β :=
  table.map fun pair => (pair.1, f pair.2)

/-! ## Laws -/

@[simp] theorem find?_nil (name : String) : find? ([] : Table α) name = none := rfl

theorem find?_insert_self (table : Table α) (name : String) (entry : α) :
    (table.insert name entry).find? name = some entry := by
  induction table with
  | nil => simp [insert, find?]
  | cons head rest ih =>
      obtain ⟨other, previous⟩ := head
      unfold insert
      split
      · simp [find?]
      · split
        · simp [find?]
        · next different => simp [find?, different, ih]

theorem find?_insert_other (table : Table α) {name other : String} (entry : α)
    (different : other ≠ name) : (table.insert name entry).find? other = table.find? other := by
  induction table with
  | nil => simp [insert, find?, different]
  | cons head rest ih =>
      obtain ⟨key, previous⟩ := head
      unfold insert
      split
      · simp [find?, different]
      · split
        · next same => subst same; simp [find?, different]
        · simp [find?, ih]

/-- Insertion changes exactly one name. -/
theorem find?_insert (table : Table α) (name other : String) (entry : α) :
    (table.insert name entry).find? other =
      if other = name then some entry else table.find? other := by
  by_cases same : other = name
  · subst same
    simp [find?_insert_self]
  · simp [same, find?_insert_other table entry same]

end Table

end GlyphScript
