import GlyphScript.Proofs.Compaction

/-!
# Envelopes with any data

An envelope can come from elsewhere, so its data can have keys that abbreviating never gives:
full keys, keys with a mark that they do not need. Two such keys can expand to one, and then
an entry is lost.

Results:
1. `abbreviate_expand_iff`: abbreviating restores an expanded key exactly if it is canonical,
   that is, if abbreviating gives it at all.
2. `renameKeys_back_iff`: a value is restored exactly if each of its keys is.
3. `compress_decompress_iff`: the data of an envelope is restored exactly if its keys are
   canonical at every depth.
-/

namespace GlyphScript.Compaction

/-! ## Canonical keys -/

/-- The keys that need no other spelling: short forms, short forms behind the mark, marked keys
behind a further mark, and keys that are neither in the table nor marked. -/
inductive CanonicalKey : String → Prop
  | short {full short : String} (known : (full, short) ∈ abbreviations) : CanonicalKey short
  | escapedShort {full short : String} (known : (full, short) ∈ abbreviations) :
      CanonicalKey (escape short)
  | escapedTwice (key : String) : CanonicalKey (escape (escape key))
  | ordinary {key : String} (notFull : ∀ short, (key, short) ∉ abbreviations)
      (notShort : ∀ full, (full, key) ∉ abbreviations) (unmarked : ∀ rest, key ≠ escape rest) :
      CanonicalKey key

/-- No full key looks escaped, none has two short forms, and no short form is a full key. -/
theorem fullKey_unambiguous : ∀ pair ∈ abbreviations, isEscaped pair.1 = false ∧
    shortForm? pair.1 = some pair.2 ∧ shortForm? pair.2 = none := by
  decide

theorem isEscaped_iff {key : String} : isEscaped key = true ↔ ∃ rest, key = escape rest := by
  constructor
  · intro marked
    obtain ⟨rest, split⟩ := List.head?_eq_some_iff.mp (beq_iff_eq.mp marked)
    exact ⟨String.ofList rest, by rw [escape, String.toList_ofList, ← split, String.ofList_toList]⟩
  · rintro ⟨rest, rfl⟩
    exact isEscaped_escape rest

theorem shortForm?_eq_none_iff {key : String} :
    shortForm? key = none ↔ ∀ short, (key, short) ∉ abbreviations := by
  rw [shortForm?, List.lookup_eq_none_iff]
  constructor
  · intro absent short known
    simpa using absent _ known
  · rintro absent ⟨full, short⟩ known
    have different : key ≠ full := by
      rintro rfl
      exact absent short known
    simpa using different

theorem isShortForm_iff {key : String} :
    isShortForm key = true ↔ ∃ full, (full, key) ∈ abbreviations := by
  rw [isShortForm, fullKey?, Option.isSome_map, List.find?_isSome]
  constructor
  · rintro ⟨⟨full, short⟩, known, same⟩
    exact ⟨full, beq_iff_eq.mp same ▸ known⟩
  · rintro ⟨full, known⟩
    exact ⟨(full, key), known, beq_self_eq_true key⟩

/-- Abbreviating gives canonical keys only. -/
theorem canonicalKey_abbreviate (key : String) : CanonicalKey (abbreviate key) := by
  unfold abbreviate
  split
  · next short found => exact .short (shortForm?_mem found)
  · next notFull =>
      split
      · next needsMark =>
          rcases Bool.or_eq_true_iff.mp needsMark with marked | isShort
          · obtain ⟨rest, rfl⟩ := isEscaped_iff.mp marked
            exact .escapedTwice rest
          · obtain ⟨full, known⟩ := isShortForm_iff.mp isShort
            exact .escapedShort known
      · next plain =>
          rw [Bool.or_eq_true, isEscaped_iff, isShortForm_iff, not_or] at plain
          exact .ordinary (shortForm?_eq_none_iff.mp notFull)
            (fun full known => plain.2 ⟨full, known⟩) fun rest same => plain.1 ⟨rest, same⟩

theorem abbreviate_of_marked {key : String} (notFull : shortForm? key = none)
    (marked : isEscaped key = true ∨ isShortForm key = true) : abbreviate key = escape key := by
  rw [abbreviate, notFull]
  exact if_pos (Bool.or_eq_true_iff.mpr marked)

/-- A key is restored exactly if it is canonical. -/
theorem abbreviate_expand_iff (key : String) :
    abbreviate (expand key) = key ↔ CanonicalKey key := by
  constructor
  · intro restored
    exact restored ▸ canonicalKey_abbreviate (expand key)
  · intro canonical
    cases canonical with
    | short known =>
        obtain ⟨unmarked, full⟩ := shortForm_unambiguous _ known
        obtain ⟨_, short, _⟩ := fullKey_unambiguous _ known
        simp [expand, unmarked, full, abbreviate, short]
    | escapedShort known =>
        obtain ⟨_, _, notFull⟩ := fullKey_unambiguous _ known
        rw [expand_escape]
        exact abbreviate_of_marked notFull (.inr (isShortForm_iff.mpr ⟨_, known⟩))
    | escapedTwice rest =>
        have notFull : shortForm? (escape rest) = none := by
          refine shortForm?_eq_none_iff.mpr fun short known => ?_
          have unmarked := (fullKey_unambiguous _ known).1
          rw [isEscaped_escape] at unmarked
          cases unmarked
        rw [expand_escape]
        exact abbreviate_of_marked notFull (.inl (isEscaped_escape rest))
    | ordinary notFull notShort unmarked =>
        have notEscaped : isEscaped key = false := by
          rw [← Bool.not_eq_true, isEscaped_iff]
          rintro ⟨rest, same⟩
          exact unmarked rest same
        have notShortForm : isShortForm key = false := by
          rw [← Bool.not_eq_true, isShortForm_iff]
          rintro ⟨full, known⟩
          exact notShort full known
        have noFullKey : fullKey? key = none := by
          simpa [isShortForm] using notShortForm
        have kept : expand key = key := by simp [expand, notEscaped, noFullKey]
        rw [kept, abbreviate, shortForm?_eq_none_iff.mpr notFull]
        simp [notEscaped, notShortForm]

instance (key : String) : Decidable (CanonicalKey key) :=
  decidable_of_iff _ (abbreviate_expand_iff key)

/-! ## Values with such keys only -/

theorem allKeysEntries_of_forall_mem {holds : String → Prop} {entries : List (String × Value)}
    (all : ∀ pair ∈ entries, holds pair.1 ∧ AllKeys holds pair.2) :
    AllKeysEntries holds entries := by
  induction entries with
  | nil => simp [AllKeysEntries]
  | cons pair rest ih =>
      rw [List.forall_mem_cons] at all
      rw [AllKeysEntries]
      exact ⟨all.1.1, all.1.2, ih all.2⟩

mutual

/-- Every key of a renamed value is one that the renaming gives. -/
theorem allKeys_renameKeys {holds : String → Prop} {rename : String → String}
    (given : ∀ key, holds (rename key)) (value : Value) :
    AllKeys holds (renameKeys rename value) := by
  cases value with
  | null => simp [renameKeys, AllKeys]
  | bool b => simp [renameKeys, AllKeys]
  | number x => simp [renameKeys, AllKeys]
  | text s => simp [renameKeys, AllKeys]
  | list items =>
      rw [renameKeys, AllKeys]
      exact allKeysItems_renameItems given items
  | dict entries =>
      rw [renameKeys, Value.record, AllKeys]
      refine allKeysEntries_of_forall_mem fun pair member => ?_
      exact allKeys_of_mem_renameEntries given entries (Table.mem_of_mem_ofList member)

theorem allKeysItems_renameItems {holds : String → Prop} {rename : String → String}
    (given : ∀ key, holds (rename key)) (items : List Value) :
    AllKeysItems holds (renameItems rename items) := by
  cases items with
  | nil => simp [renameItems, AllKeysItems]
  | cons item rest =>
      rw [renameItems, AllKeysItems]
      exact ⟨allKeys_renameKeys given item, allKeysItems_renameItems given rest⟩

theorem allKeys_of_mem_renameEntries {holds : String → Prop} {rename : String → String}
    (given : ∀ key, holds (rename key)) (entries : List (String × Value))
    {pair : String × Value} (member : pair ∈ renameEntries rename entries) :
    holds pair.1 ∧ AllKeys holds pair.2 := by
  cases entries with
  | nil => simp [renameEntries] at member
  | cons head rest =>
      obtain ⟨key, entry⟩ := head
      rw [renameEntries] at member
      rcases List.mem_cons.mp member with equal | inRest
      · subst equal
        exact ⟨given key, allKeys_renameKeys given entry⟩
      · exact allKeys_of_mem_renameEntries given rest inRest

end

/-- If renaming undoes the renaming back, then a value is restored exactly if each of its keys
is. -/
theorem renameKeys_back_iff {rename back : String → String}
    (inverse : Function.LeftInverse rename back) (value : Value) (ordered : value.Ordered) :
    renameKeys back (renameKeys rename value) = value ↔
      AllKeys (fun key => back (rename key) = key) value := by
  constructor
  · -- A restored value has been renamed back last, so its keys are ones that this gives.
    intro restored
    have given : ∀ key, back (rename (back key)) = back key :=
      fun key => congrArg back (inverse key)
    rw [← restored]
    exact allKeys_renameKeys given _
  · exact renameKeys_back value ordered

theorem isNull_renameKeys (rename : String → String) (value : Value) :
    (renameKeys rename value).isNull = value.isNull := by
  cases value <;> simp [renameKeys, Value.record, Value.isNull]

end GlyphScript.Compaction

namespace GlyphScript

open Compaction

/-- Whatever data an envelope holds, null apart, its expanded form can be compacted again. That
gives the same data exactly if every key of it, at every depth, is canonical. -/
theorem compress_decompress_iff (compacted : Compacted) (ordered : compacted.data.Ordered)
    (present : compacted.data ≠ .null) :
    ∃ again, compress (decompress compacted) = some again ∧
      (again.data = compacted.data ↔ AllKeys CanonicalKey compacted.data) := by
  have notNull : (decompress compacted).isNull = false := by
    rw [decompress, isNull_renameKeys]
    cases data : compacted.data with
    | null => exact absurd data present
    | _ => rfl
  have canonical : CanonicalKey = fun key => abbreviate (expand key) = key :=
    funext fun key => propext (abbreviate_expand_iff key).symm
  refine ⟨_, by rw [compress, notNull]; rfl, ?_⟩
  rw [canonical]
  exact renameKeys_back_iff expand_abbreviate compacted.data ordered

/-- Short forms, the same ones escaped, an escaped mark and an ordinary key, at two depths. -/
def canonicalEnvelope : Compacted where
  version := Compacted.currentVersion
  typeTag := "unknown"
  signature := ""
  data := .dict [("other", .list [.dict [("n", .bool true), ("~n", .null)]]), ("t", .null),
    ("~t", .bool false), ("~~~", .text "type")]

/-- A full key beside its short form: both expand to the full key. -/
def mergingEnvelope : Compacted where
  version := Compacted.currentVersion
  typeTag := "unknown"
  signature := ""
  data := .list [.dict [("t", .text "first"), ("type", .text "second")]]

theorem compress_decompress_iff_twoEnvelopes :
    (∃ again, compress (decompress canonicalEnvelope) = some again ∧
      again.data = canonicalEnvelope.data) ∧
    ∃ again, compress (decompress mergingEnvelope) = some again ∧
      again.data ≠ mergingEnvelope.data := by
  constructor
  · have ordered : canonicalEnvelope.data.Ordered := by
      simp only [canonicalEnvelope, Value.Ordered, Value.OrderedEntries, Value.OrderedItems]
      decide
    have canonical : AllKeys CanonicalKey canonicalEnvelope.data := by
      simp only [canonicalEnvelope, AllKeys, AllKeysEntries, AllKeysItems]
      decide
    obtain ⟨again, compressed, same⟩ := compress_decompress_iff canonicalEnvelope ordered nofun
    exact ⟨again, compressed, same.mpr canonical⟩
  · have ordered : mergingEnvelope.data.Ordered := by
      simp only [mergingEnvelope, Value.Ordered, Value.OrderedEntries, Value.OrderedItems]
      decide
    have notCanonical : ¬ AllKeys CanonicalKey mergingEnvelope.data := by
      simp only [mergingEnvelope, AllKeys, AllKeysEntries, AllKeysItems]
      decide
    obtain ⟨again, compressed, same⟩ := compress_decompress_iff mergingEnvelope ordered nofun
    exact ⟨again, compressed, fun restored => notCanonical (same.mp restored)⟩

end GlyphScript
