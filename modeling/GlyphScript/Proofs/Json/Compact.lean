import GlyphScript.Json.Writer
import GlyphScript.Proofs.Json.Quoted
import GlyphScript.Proofs.Table

/-!
# Compact text is read back

The compact text of a value without numbers is read back as that value, and what
stands behind the text is left (`readValue_compact`). The reader's limit on depth is
the number of containers that may stand inside each other (`Value.nesting`).
-/

namespace GlyphScript

namespace Value

mutual

/-- The numbers in a value, at every depth. -/
def numbers : Value → List Float
  | number x => [x]
  | list items => numbersOfItems items
  | dict entries => numbersOfEntries entries
  | _ => []

def numbersOfItems : List Value → List Float
  | [] => []
  | item :: rest => numbers item ++ numbersOfItems rest

def numbersOfEntries : List (String × Value) → List Float
  | [] => []
  | (_, entry) :: rest => numbers entry ++ numbersOfEntries rest

end

mutual

/-- How many containers stand inside each other. -/
def nesting : Value → Nat
  | list items => nestingOfItems items + 1
  | dict entries => nestingOfEntries entries + 1
  | _ => 0

def nestingOfItems : List Value → Nat
  | [] => 0
  | item :: rest => max (nesting item) (nestingOfItems rest)

def nestingOfEntries : List (String × Value) → Nat
  | [] => 0
  | (_, entry) :: rest => max (nesting entry) (nestingOfEntries rest)

end

/-- A value whose text can be read where containers may nest `depth` deep. -/
structure Writable (depth : Nat) (value : Value) : Prop where
  numberFree : value.numbers = []
  ordered : value.Ordered
  shallow : value.nesting ≤ depth

theorem Writable.first_item {depth : Nat} {item : Value} {rest : List Value}
    (writable : (list (item :: rest)).Writable (depth + 1)) : item.Writable depth := by
  obtain ⟨numberFree, ordered, shallow⟩ := writable
  rw [numbers, numbersOfItems, List.append_eq_nil_iff] at numberFree
  rw [Ordered, OrderedItems] at ordered
  rw [nesting, nestingOfItems] at shallow
  exact ⟨numberFree.1, ordered.1, by omega⟩

theorem Writable.other_items {depth : Nat} {item : Value} {rest : List Value}
    (writable : (list (item :: rest)).Writable (depth + 1)) :
    (list rest).Writable (depth + 1) := by
  obtain ⟨numberFree, ordered, shallow⟩ := writable
  rw [numbers, numbersOfItems, List.append_eq_nil_iff] at numberFree
  rw [Ordered, OrderedItems] at ordered
  rw [nesting, nestingOfItems] at shallow
  refine ⟨?_, ?_, ?_⟩
  · rw [numbers]
    exact numberFree.2
  · rw [Ordered]
    exact ordered.2
  · rw [nesting]
    omega

theorem Writable.first_entry {depth : Nat} {key : String} {entry : Value}
    {rest : List (String × Value)}
    (writable : (dict ((key, entry) :: rest)).Writable (depth + 1)) : entry.Writable depth := by
  obtain ⟨numberFree, ordered, shallow⟩ := writable
  rw [numbers, numbersOfEntries, List.append_eq_nil_iff] at numberFree
  rw [Ordered, OrderedEntries] at ordered
  rw [nesting, nestingOfEntries] at shallow
  exact ⟨numberFree.1, ordered.2.1, by omega⟩

theorem Writable.other_entries {depth : Nat} {key : String} {entry : Value}
    {rest : List (String × Value)}
    (writable : (dict ((key, entry) :: rest)).Writable (depth + 1)) :
    (dict rest).Writable (depth + 1) := by
  obtain ⟨numberFree, ordered, shallow⟩ := writable
  rw [numbers, numbersOfEntries, List.append_eq_nil_iff] at numberFree
  rw [Ordered, OrderedEntries] at ordered
  rw [nesting, nestingOfEntries] at shallow
  refine ⟨?_, ?_, ?_⟩
  · rw [numbers]
    exact numberFree.2
  · rw [Ordered]
    exact ⟨(List.pairwise_cons.mp ordered.1).2, ordered.2.2⟩
  · rw [nesting]
    omega

end Value

namespace Json

variable (numberText : Float → List Char)

/-! ## The first character -/

/-- The characters that the text of a value without numbers can start with. -/
def leads : List Char :=
  ['n', 't', 'f', '"', '[', '\x7b']

theorem compactWith_head {value : Value} (numberFree : value.numbers = []) :
    ∃ c rest, compactWith numberText value = c :: rest ∧ c ∈ leads := by
  cases value with
  | null => exact ⟨'n', _, rfl, by decide⟩
  | bool b =>
      cases b with
      | false => exact ⟨'f', _, rfl, by decide⟩
      | true => exact ⟨'t', _, rfl, by decide⟩
  | number x =>
      rw [Value.numbers] at numberFree
      cases numberFree
  | text s => exact ⟨'"', _, rfl, by decide⟩
  | list items =>
      cases items with
      | nil => exact ⟨'[', _, by rw [compactWith], by decide⟩
      | cons item rest => exact ⟨'[', _, by rw [compactWith], by decide⟩
  | dict entries =>
      cases entries with
      | nil => exact ⟨'\x7b', _, by rw [compactWith], by decide⟩
      | cons pair rest => exact ⟨'\x7b', _, by rw [compactWith], by decide⟩

theorem skipSpace_lead : ∀ c ∈ leads, ∀ rest, skipSpace (c :: rest) = c :: rest := by
  simp [leads, skipSpace, isSpace]

theorem lead_ne_closing : ∀ c ∈ leads, c ≠ ']' ∧ c ≠ '\x7d' := by
  simp [leads]

/-! ## Texts -/

theorem quotedChar_ne_nil (c : Char) : Text.quotedChar c ≠ [] := by
  unfold Text.quotedChar Text.controlEscape
  grind

theorem length_le_flatMap_quotedChar (cs : List Char) :
    cs.length ≤ (cs.flatMap Text.quotedChar).length := by
  induction cs with
  | nil => simp
  | cons c rest ih =>
      have written := List.length_pos_iff.mpr (quotedChar_ne_nil c)
      rw [List.flatMap_cons, List.length_append, List.length_cons]
      omega

theorem readString_quoted (s : String) (rest : List Char) :
    readString (s.toList.flatMap Text.quotedChar ++ '"' :: rest) = .ok (s, rest) := by
  have shorter := length_le_flatMap_quotedChar s.toList
  obtain ⟨extra, fuel⟩ := Nat.exists_eq_add_of_le shorter
  have length : (s.toList.flatMap Text.quotedChar ++ '"' :: rest).length =
      s.toList.length + (extra + rest.length) + 1 := by
    rw [List.length_append, List.length_cons, fuel]
    omega
  rw [readString, length, readText_flatMap, List.reverse_nil, List.nil_append]
  simp [Except.map]

theorem quoted_append (s : String) (rest : List Char) :
    Text.quoted s.toList ++ rest = '"' :: (s.toList.flatMap Text.quotedChar ++ '"' :: rest) := by
  simp [Text.quoted]

/-! ## Containers, one part at a time -/

section Parts

variable {readItem : List Char → Reading Value} {c : Char} {value : Value} {cs rest : List Char}

theorem readList_of_item (lead : c ∈ leads) (read : readItem (c :: cs) = .ok (value, rest)) :
    readList readItem (c :: cs) =
      (readItems readItem (c :: cs).length [value] rest).map fun (items, rest) =>
        (.list items, rest) := by
  obtain ⟨notClosing, -⟩ := lead_ne_closing c lead
  unfold readList
  rw [skipSpace_lead c lead]
  split
  · next empty => cases empty
  · next closing => cases closing; exact absurd rfl notClosing
  · rw [read]

theorem readItems_of_item (fuel : Nat) (before : List Value) (lead : c ∈ leads)
    (read : readItem (c :: cs) = .ok (value, rest)) :
    readItems readItem (fuel + 1) before (',' :: c :: cs) =
      readItems readItem fuel (value :: before) rest := by
  obtain ⟨notClosing, -⟩ := lead_ne_closing c lead
  have comma : skipSpace (',' :: c :: cs) = ',' :: c :: cs := rfl
  rw [readItems, comma]
  simp only
  rw [skipSpace_lead c lead]
  split
  · next empty => cases empty
  · next closing => cases closing; exact absurd rfl notClosing
  · rw [read]

theorem readEntry_of_value (key : String) (read : readItem cs = .ok (value, rest)) :
    readEntry readItem (Text.quoted key.toList ++ ':' :: cs) = .ok ((key, value), rest) := by
  rw [quoted_append, readEntry, readString_quoted]
  simp [skipSpace, isSpace, read, Except.map]

theorem readObject_of_entry (key : String) (read : readItem cs = .ok (value, rest)) :
    readObject readItem (Text.quoted key.toList ++ ':' :: cs) =
      (readEntries readItem (Text.quoted key.toList ++ ':' :: cs).length [(key, value)] rest).map
        fun (entries, rest) => (.dict entries, rest) := by
  have entry := readEntry_of_value key read
  rw [quoted_append] at entry ⊢
  unfold readObject
  rw [skipSpace_lead '"' (by decide)]
  split
  · next empty => cases empty
  · next closing => simp at closing
  · rw [entry]

theorem readEntries_of_entry (fuel : Nat) (before : Dict) (key : String)
    (read : readItem cs = .ok (value, rest)) :
    readEntries readItem (fuel + 1) before (',' :: (Text.quoted key.toList ++ ':' :: cs)) =
      readEntries readItem fuel (before.insert key value) rest := by
  have entry := readEntry_of_value key read
  rw [quoted_append] at entry ⊢
  have comma : ∀ others, skipSpace (',' :: others) = ',' :: others := fun _ => rfl
  rw [readEntries, comma]
  simp only
  rw [skipSpace_lead '"' (by decide)]
  split
  · next empty => cases empty
  · next closing => simp at closing
  · rw [entry]

end Parts

/-! ## Whole values -/

theorem length_lt_compactItems (items : List Value) :
    items.length < (compactItems numberText items).length := by
  induction items with
  | nil => simp [compactItems]
  | cons item rest ih =>
      rw [compactItems, List.length_cons, List.length_cons, List.length_append]
      omega

theorem length_lt_compactEntries (entries : List (String × Value)) :
    entries.length < (compactEntries numberText entries).length := by
  induction entries with
  | nil => simp [compactEntries]
  | cons pair rest ih =>
      rw [compactEntries, List.length_cons, List.length_cons, List.length_append,
        List.length_cons, List.length_append]
      omega

theorem readValue_of_scalar {c : Char} (cs : List Char) (depth : Nat)
    (plain : c ∈ ['n', 't', 'f', '"']) : readValue depth (c :: cs) = readScalar (c :: cs) := by
  simp only [List.mem_cons, List.not_mem_nil, or_false] at plain
  rcases plain with rfl | rfl | rfl | rfl <;> simp [readValue, skipSpace, isSpace]

theorem readValue_of_list (cs : List Char) (depth : Nat) :
    readValue (depth + 1) ('[' :: cs) = readList (readValue depth) cs := by
  rw [readValue, skipSpace_lead '[' (by decide)]
  rfl

theorem readValue_of_object (cs : List Char) (depth : Nat) :
    readValue (depth + 1) ('\x7b' :: cs) = readObject (readValue depth) cs := by
  rw [readValue, skipSpace_lead '\x7b' (by decide)]
  rfl

mutual

/-- The compact text of a value without numbers is read back, whatever follows it. -/
theorem readValue_compact (value : Value) (depth : Nat) (writable : value.Writable depth)
    (rest : List Char) :
    readValue depth (compactWith numberText value ++ rest) = .ok (value, rest) := by
  cases value with
  | null =>
      show readValue depth ('n' :: 'u' :: 'l' :: 'l' :: rest) = _
      rw [readValue_of_scalar _ _ (by decide)]
      rfl
  | bool b =>
      cases b with
      | false =>
          show readValue depth ('f' :: 'a' :: 'l' :: 's' :: 'e' :: rest) = _
          rw [readValue_of_scalar _ _ (by decide)]
          rfl
      | true =>
          show readValue depth ('t' :: 'r' :: 'u' :: 'e' :: rest) = _
          rw [readValue_of_scalar _ _ (by decide)]
          rfl
  | number x =>
      have numberFree := writable.numberFree
      rw [Value.numbers] at numberFree
      cases numberFree
  | text s =>
      show readValue depth (Text.quoted s.toList ++ rest) = _
      rw [quoted_append, readValue_of_scalar _ _ (by decide)]
      simp [readScalar, Text.isAsciiDigit, readString_quoted, Except.map]
  | list items =>
      obtain ⟨depth, rfl⟩ : ∃ inner, depth = inner + 1 := by
        have shallow := writable.shallow
        rw [Value.nesting] at shallow
        exact ⟨depth - 1, by omega⟩
      cases items with
      | nil =>
          rw [compactWith, List.cons_append, readValue_of_list]
          rfl
      | cons item others =>
          have first := writable.first_item
          obtain ⟨c, behind, text, lead⟩ := compactWith_head numberText first.numberFree
          have read := readValue_compact item depth first
            (compactItems numberText others ++ rest)
          have enough := length_lt_compactItems numberText others
          rw [text, List.cons_append] at read
          rw [compactWith, List.cons_append, readValue_of_list, List.append_assoc, text,
            List.cons_append, readList_of_item lead read,
            readItems_compact others depth writable.other_items _ _ [item] rest]
          · rfl
          · simp only [List.length_cons, List.length_append]
            omega
  | dict entries =>
      obtain ⟨depth, rfl⟩ : ∃ inner, depth = inner + 1 := by
        have shallow := writable.shallow
        rw [Value.nesting] at shallow
        exact ⟨depth - 1, by omega⟩
      cases entries with
      | nil =>
          rw [compactWith, List.cons_append, readValue_of_object]
          rfl
      | cons pair others =>
          obtain ⟨key, entry⟩ := pair
          have read := readValue_compact entry depth writable.first_entry
            (compactEntries numberText others ++ rest)
          have enough := length_lt_compactEntries numberText others
          have ordered := writable.ordered
          rw [Value.Ordered] at ordered
          have kept : Table.extend [(key, entry)] others = (key, entry) :: others :=
            Table.ofList_of_ordered ordered.1
          rw [compactWith, List.cons_append, readValue_of_object, List.append_assoc,
            List.cons_append, List.append_assoc, readObject_of_entry key read,
            readEntries_compact others depth writable.other_entries _ _ _ rest, kept]
          · rfl
          · simp only [List.length_cons, List.length_append]
            omega

theorem readItems_compact (items : List Value) (depth : Nat)
    (writable : (Value.list items).Writable (depth + 1)) (fuel : Nat)
    (enough : items.length < fuel) (before : List Value) (rest : List Char) :
    readItems (readValue depth) fuel before (compactItems numberText items ++ rest) =
      .ok (before.reverse ++ items, rest) := by
  obtain ⟨fuel, rfl⟩ : ∃ less, fuel = less + 1 := ⟨fuel - 1, by omega⟩
  cases items with
  | nil =>
      rw [compactItems, List.append_nil]
      rfl
  | cons item others =>
      have first := writable.first_item
      obtain ⟨c, behind, text, lead⟩ := compactWith_head numberText first.numberFree
      have read := readValue_compact item depth first (compactItems numberText others ++ rest)
      have fewer : others.length < fuel := Nat.lt_of_succ_lt_succ enough
      rw [text, List.cons_append] at read
      rw [compactItems, List.cons_append, List.append_assoc, text, List.cons_append,
        readItems_of_item fuel before lead read,
        readItems_compact others depth writable.other_items fuel fewer]
      simp

theorem readEntries_compact (entries : List (String × Value)) (depth : Nat)
    (writable : (Value.dict entries).Writable (depth + 1)) (fuel : Nat)
    (enough : entries.length < fuel) (before : Dict) (rest : List Char) :
    readEntries (readValue depth) fuel before (compactEntries numberText entries ++ rest) =
      .ok (before.extend entries, rest) := by
  obtain ⟨fuel, rfl⟩ : ∃ less, fuel = less + 1 := ⟨fuel - 1, by omega⟩
  cases entries with
  | nil =>
      rw [compactEntries]
      rfl
  | cons pair others =>
      obtain ⟨key, entry⟩ := pair
      have read := readValue_compact entry depth writable.first_entry
        (compactEntries numberText others ++ rest)
      have fewer : others.length < fuel := Nat.lt_of_succ_lt_succ enough
      rw [compactEntries, List.cons_append, List.append_assoc, List.cons_append,
        List.append_assoc, readEntries_of_entry fuel before key read,
        readEntries_compact others depth writable.other_entries fuel fewer]
      rfl

end

end Json

end GlyphScript
