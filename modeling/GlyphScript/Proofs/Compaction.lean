import GlyphScript.Compaction
import GlyphScript.Proofs.Table

/-!
# Compaction loses nothing

Renaming keys is undone by renaming them back whenever that restores each key of
the value (`renameKeys_back`), and for every value if the two renamings are inverse
on single keys (`renameKeys_renameKeys`). The only risk is that two keys of one dict
get one name, since then an entry is lost; `Renamed` says that this happens at no
depth.

Results:
1. `expand_abbreviate`: expanding undoes abbreviating, for every key.
2. `decompress_compress`: a value that is not null has a compacted form, from
   which it is restored, and in which all its entries stand under their own keys.
-/

namespace GlyphScript.Compaction

/-! ## Single keys -/

/-- No short form looks escaped, and none stands for two keys. -/
theorem shortForm_unambiguous :
    ∀ pair ∈ abbreviations, isEscaped pair.2 = false ∧ fullKey? pair.2 = some pair.1 := by
  decide

theorem shortForm?_mem {key short : String} (found : shortForm? key = some short) :
    (key, short) ∈ abbreviations := by
  obtain ⟨before, after, split, _⟩ := List.lookup_eq_some_iff.mp found
  rw [split]
  exact List.mem_append_right _ List.mem_cons_self

theorem isEscaped_escape (key : String) : isEscaped (escape key) = true := by
  simp [isEscaped, escape]

theorem expand_escape (key : String) : expand (escape key) = key := by
  rw [expand, if_pos (isEscaped_escape key)]
  simp [escape]

/-- Expanding undoes abbreviating: a short form is expanded to the key it stands
for, an escaped key loses its mark, and any other key was left as it is. -/
theorem expand_abbreviate (key : String) : expand (abbreviate key) = key := by
  unfold abbreviate
  split
  · next short found =>
      obtain ⟨plain, full⟩ := shortForm_unambiguous _ (shortForm?_mem found)
      simp [expand, plain, full]
  · split
    · exact expand_escape key
    · next ordinary =>
        simp only [Bool.or_eq_true, not_or, Bool.not_eq_true, isShortForm,
          Option.isSome_eq_false_iff, Option.isNone_iff_eq_none] at ordinary
        simp [expand, ordinary.1, ordinary.2]

/-! ## Renaming at every depth -/

mutual

/-- The second value is the first one under renamed keys: at no depth do two keys
of one dict get the same name, and no entry is lost or added. -/
def Renamed (rename : String → String) : Value → Value → Prop
  | .list items, .list others => RenamedItems rename items others
  | .dict entries, .dict others =>
      (entries.map fun pair => rename pair.1).Nodup ∧
      (Table.names others).Perm (entries.map fun pair => rename pair.1) ∧
      RenamedEntries rename entries others
  | value, other => value = other

def RenamedItems (rename : String → String) : List Value → List Value → Prop
  | [], [] => True
  | item :: rest, other :: others => Renamed rename item other ∧ RenamedItems rename rest others
  | _, _ => False

/-- Every entry stands under its renamed key. -/
def RenamedEntries (rename : String → String) : List (String × Value) → Dict → Prop
  | [], _ => True
  | (key, entry) :: rest, others =>
      (∃ other, others.find? (rename key) = some other ∧ Renamed rename entry other) ∧
      RenamedEntries rename rest others

end

theorem renameEntries_eq_map (rename : String → String) (entries : List (String × Value)) :
    renameEntries rename entries =
      entries.map fun pair => (rename pair.1, renameKeys rename pair.2) := by
  induction entries with
  | nil => simp [renameEntries]
  | cons pair rest ih => simp [renameEntries, ih]

theorem names_renameEntries (rename : String → String) (entries : List (String × Value)) :
    Table.names (renameEntries rename entries) = entries.map fun pair => rename pair.1 := by
  rw [renameEntries_eq_map]
  simp [Table.names]

theorem orderedEntries_of_forall {entries : List (String × Value)}
    (ordered : ∀ pair ∈ entries, pair.2.Ordered) : Value.OrderedEntries entries := by
  induction entries with
  | nil => simp [Value.OrderedEntries]
  | cons pair rest ih =>
      rw [List.forall_mem_cons] at ordered
      rw [Value.OrderedEntries]
      exact ⟨ordered.1, ih ordered.2⟩

section Injective

variable {rename : String → String}

/-- Distinct keys keep distinct names, so that no entry of a dict is lost. -/
theorem renamedNames_nodup (injective : Function.Injective rename)
    {entries : List (String × Value)} (ordered : Table.Ordered entries) :
    (entries.map fun pair => rename pair.1).Nodup := by
  have distinct : (Table.names entries).Nodup := Table.Ordered.names_nodup ordered
  rw [Table.names, List.nodup_iff_pairwise_ne, List.pairwise_map] at distinct
  rw [List.nodup_iff_pairwise_ne, List.pairwise_map]
  refine distinct.imp ?_
  intro left right different same
  exact different (injective same)

theorem ofList_renameEntries_perm (injective : Function.Injective rename)
    {entries : List (String × Value)} (ordered : Table.Ordered entries) :
    (Table.ofList (renameEntries rename entries)).Perm (renameEntries rename entries) := by
  apply Table.ofList_perm
  rw [names_renameEntries]
  exact renamedNames_nodup injective ordered

mutual

theorem renamed_renameKeys (injective : Function.Injective rename) (value : Value)
    (ordered : value.Ordered) : Renamed rename value (renameKeys rename value) := by
  cases value with
  | null => simp [renameKeys, Renamed]
  | bool b => simp [renameKeys, Renamed]
  | number x => simp [renameKeys, Renamed]
  | text s => simp [renameKeys, Renamed]
  | list items =>
      rw [Value.Ordered] at ordered
      rw [renameKeys, Renamed]
      exact renamedItems_renameItems injective items ordered
  | dict entries =>
      rw [Value.Ordered] at ordered
      have kept := ofList_renameEntries_perm injective ordered.1
      have namesKept := kept.map Prod.fst
      have names := names_renameEntries rename entries
      rw [Table.names] at names
      rw [renameKeys, Value.record, Renamed]
      refine ⟨renamedNames_nodup injective ordered.1, names ▸ namesKept, ?_⟩
      apply renamedEntries_renameEntries injective entries ordered.2
      · exact (Table.ordered_ofList _).names_nodup
      · intro pair member
        exact kept.mem_iff.mpr member

theorem renamedItems_renameItems (injective : Function.Injective rename)
    (items : List Value) (ordered : Value.OrderedItems items) :
    RenamedItems rename items (renameItems rename items) := by
  cases items with
  | nil => simp [renameItems, RenamedItems]
  | cons item rest =>
      rw [Value.OrderedItems] at ordered
      rw [renameItems, RenamedItems]
      exact ⟨renamed_renameKeys injective item ordered.1,
        renamedItems_renameItems injective rest ordered.2⟩

theorem renamedEntries_renameEntries (injective : Function.Injective rename)
    (entries : List (String × Value)) (ordered : Value.OrderedEntries entries) {others : Dict}
    (distinct : others.names.Nodup) (kept : ∀ pair ∈ renameEntries rename entries, pair ∈ others) :
    RenamedEntries rename entries others := by
  cases entries with
  | nil => simp [RenamedEntries]
  | cons pair rest =>
      obtain ⟨key, entry⟩ := pair
      rw [Value.OrderedEntries] at ordered
      rw [renameEntries, List.forall_mem_cons] at kept
      rw [RenamedEntries]
      refine ⟨⟨renameKeys rename entry, ?_, ?_⟩, ?_⟩
      · exact Table.find?_of_mem distinct kept.1
      · exact renamed_renameKeys injective entry ordered.1
      · exact renamedEntries_renameEntries injective rest ordered.2 distinct kept.2

end

end Injective

mutual

/-- A renamed dict is sorted by its new keys. -/
theorem ordered_renameKeys (rename : String → String) (value : Value) :
    (renameKeys rename value).Ordered := by
  cases value with
  | null => simp [renameKeys, Value.Ordered]
  | bool b => simp [renameKeys, Value.Ordered]
  | number x => simp [renameKeys, Value.Ordered]
  | text s => simp [renameKeys, Value.Ordered]
  | list items =>
      rw [renameKeys, Value.Ordered]
      exact orderedItems_renameItems rename items
  | dict entries =>
      rw [renameKeys, Value.record, Value.Ordered]
      refine ⟨Table.ordered_ofList _, orderedEntries_of_forall ?_⟩
      intro pair member
      exact ordered_of_mem_renameEntries rename entries (Table.mem_of_mem_ofList member)

theorem orderedItems_renameItems (rename : String → String) (items : List Value) :
    Value.OrderedItems (renameItems rename items) := by
  cases items with
  | nil => simp [renameItems, Value.OrderedItems]
  | cons item rest =>
      rw [renameItems, Value.OrderedItems]
      exact ⟨ordered_renameKeys rename item, orderedItems_renameItems rename rest⟩

theorem ordered_of_mem_renameEntries (rename : String → String)
    (entries : List (String × Value)) {pair : String × Value}
    (member : pair ∈ renameEntries rename entries) : pair.2.Ordered := by
  cases entries with
  | nil => simp [renameEntries] at member
  | cons head rest =>
      obtain ⟨key, entry⟩ := head
      rw [renameEntries] at member
      rcases List.mem_cons.mp member with equal | inRest
      · subst equal
        exact ordered_renameKeys rename entry
      · exact ordered_of_mem_renameEntries rename rest inRest

end

/-! ## Renaming back -/

mutual

/-- Every key of a dict, at every depth, has a property. -/
def AllKeys (holds : String → Prop) : Value → Prop
  | .list items => AllKeysItems holds items
  | .dict entries => AllKeysEntries holds entries
  | _ => True

def AllKeysItems (holds : String → Prop) : List Value → Prop
  | [] => True
  | item :: rest => AllKeys holds item ∧ AllKeysItems holds rest

def AllKeysEntries (holds : String → Prop) : List (String × Value) → Prop
  | [] => True
  | (key, entry) :: rest => holds key ∧ AllKeys holds entry ∧ AllKeysEntries holds rest

end

mutual

theorem allKeys_of_forall {holds : String → Prop} (all : ∀ key, holds key) (value : Value) :
    AllKeys holds value := by
  cases value with
  | null => simp [AllKeys]
  | bool b => simp [AllKeys]
  | number x => simp [AllKeys]
  | text s => simp [AllKeys]
  | list items =>
      rw [AllKeys]
      exact allKeysItems_of_forall all items
  | dict entries =>
      rw [AllKeys]
      exact allKeysEntries_of_forall all entries

theorem allKeysItems_of_forall {holds : String → Prop} (all : ∀ key, holds key)
    (items : List Value) : AllKeysItems holds items := by
  cases items with
  | nil => simp [AllKeysItems]
  | cons item rest =>
      rw [AllKeysItems]
      exact ⟨allKeys_of_forall all item, allKeysItems_of_forall all rest⟩

theorem allKeysEntries_of_forall {holds : String → Prop} (all : ∀ key, holds key)
    (entries : List (String × Value)) : AllKeysEntries holds entries := by
  cases entries with
  | nil => simp [AllKeysEntries]
  | cons pair rest =>
      rw [AllKeysEntries]
      exact ⟨all pair.1, allKeys_of_forall all pair.2, allKeysEntries_of_forall all rest⟩

end

mutual

/-- Renaming back restores a value if it restores each of its keys. -/
theorem renameKeys_back {rename back : String → String} (value : Value) (ordered : value.Ordered)
    (inverse : AllKeys (fun key => back (rename key) = key) value) :
    renameKeys back (renameKeys rename value) = value := by
  cases value with
  | null => simp [renameKeys]
  | bool b => simp [renameKeys]
  | number x => simp [renameKeys]
  | text s => simp [renameKeys]
  | list items =>
      rw [Value.Ordered] at ordered
      rw [AllKeys] at inverse
      rw [renameKeys, renameKeys, renameItems_back items ordered inverse]
  | dict entries =>
      rw [Value.Ordered] at ordered
      rw [AllKeys] at inverse
      have entriesBack := renameEntries_back entries ordered.2 inverse
      have namesBack : ((Table.names (renameEntries rename entries)).map back).Nodup := by
        have names := names_renameEntries back (renameEntries rename entries)
        rw [entriesBack] at names
        rw [Table.names, List.map_map]
        exact names ▸ Table.Ordered.names_nodup ordered.1
      -- Keys that are restored to distinct keys are distinct, so no entry is lost on the way.
      have distinct : (Table.names (renameEntries rename entries)).Nodup := by
        refine List.Pairwise.of_map back ?_ namesBack
        exact fun _ _ different same => different (congrArg back same)
      -- The table of renamed entries is sorted anew, so the entries come back in another order.
      have restored :
          (renameEntries back (Table.ofList (renameEntries rename entries))).Perm entries := by
        have moved := (Table.ofList_perm distinct).map
          fun pair => (back pair.1, renameKeys back pair.2)
        rw [← renameEntries_eq_map, ← renameEntries_eq_map, entriesBack] at moved
        exact moved
      have restoredDistinct :
          (Table.names (renameEntries back (Table.ofList (renameEntries rename entries)))).Nodup :=
        (restored.map Prod.fst).nodup_iff.mpr (Table.Ordered.names_nodup ordered.1)
      rw [renameKeys, Value.record, renameKeys, Value.record]
      congr 1
      exact Table.eq_of_perm (Table.ordered_ofList _) ordered.1
        ((Table.ofList_perm restoredDistinct).trans restored)

theorem renameItems_back {rename back : String → String} (items : List Value)
    (ordered : Value.OrderedItems items)
    (inverse : AllKeysItems (fun key => back (rename key) = key) items) :
    renameItems back (renameItems rename items) = items := by
  cases items with
  | nil => simp [renameItems]
  | cons item rest =>
      rw [Value.OrderedItems] at ordered
      rw [AllKeysItems] at inverse
      rw [renameItems, renameItems, renameKeys_back item ordered.1 inverse.1,
        renameItems_back rest ordered.2 inverse.2]

theorem renameEntries_back {rename back : String → String} (entries : List (String × Value))
    (ordered : Value.OrderedEntries entries)
    (inverse : AllKeysEntries (fun key => back (rename key) = key) entries) :
    renameEntries back (renameEntries rename entries) = entries := by
  cases entries with
  | nil => simp [renameEntries]
  | cons pair rest =>
      obtain ⟨key, entry⟩ := pair
      rw [Value.OrderedEntries] at ordered
      rw [AllKeysEntries] at inverse
      rw [renameEntries, renameEntries, inverse.1, renameKeys_back entry ordered.1 inverse.2.1,
        renameEntries_back rest ordered.2 inverse.2.2]

end

/-- Renaming back by an inverse restores a value, whatever its keys are. -/
theorem renameKeys_renameKeys {rename back : String → String}
    (inverse : Function.LeftInverse back rename) (value : Value) (ordered : value.Ordered) :
    renameKeys back (renameKeys rename value) = value :=
  renameKeys_back value ordered (allKeys_of_forall inverse value)

end GlyphScript.Compaction

namespace GlyphScript

open Compaction

/-- A value that is not null has a compacted form, and decompressing gives the
value back. In between no entry is lost: the keys of each dict, at every depth,
keep distinct names. -/
theorem decompress_compress (value : Value) (ordered : value.Ordered) (present : value ≠ .null) :
    ∃ compacted, compress value = some compacted ∧ decompress compacted = value ∧
      Renamed abbreviate value compacted.data ∧ compacted.data.Ordered := by
  have notNull : value.isNull = false := by
    cases value with
    | null => exact absurd rfl present
    | _ => rfl
  refine ⟨_, by rw [compress, notNull]; rfl, ?_, ?_, ?_⟩
  · exact renameKeys_renameKeys expand_abbreviate value ordered
  · exact renamed_renameKeys (Function.LeftInverse.injective expand_abbreviate) value ordered
  · exact ordered_renameKeys abbreviate value

/-- A value in which a full key, its short form and escaped keys meet in one dict,
and again in a dict further down. -/
def crowdedKeys : Value :=
  .dict [("t", .null), ("type", .text "Note"), ("~t", .list [.dict [("n", .bool true),
    ("name", .null), ("other", .text "~n"), ("~n", .dict []), ("~~n", .bool false)]])]

theorem crowdedKeys_ordered : crowdedKeys.Ordered := by
  simp only [crowdedKeys, Value.Ordered, Value.OrderedEntries, Value.OrderedItems]
  decide

theorem decompress_compress_crowdedKeys :
    crowdedKeys.Ordered ∧ crowdedKeys ≠ .null ∧
    ∃ compacted, compress crowdedKeys = some compacted ∧ decompress compacted = crowdedKeys ∧
      Renamed abbreviate crowdedKeys compacted.data ∧ compacted.data.Ordered :=
  ⟨crowdedKeys_ordered, nofun, decompress_compress crowdedKeys crowdedKeys_ordered nofun⟩

end GlyphScript
