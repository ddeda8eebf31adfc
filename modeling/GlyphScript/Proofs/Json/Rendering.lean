import GlyphScript.Fingerprint
import GlyphScript.Proofs.Decimal.NumberText
import GlyphScript.Proofs.Json.Compact

/-!
# The text of a JSON document

A value can be converted to a JSON document first and be written then. The document keeps
integers and other numbers apart and has the members of an object in the order of their keys;
its text has commas between the items, no blanks, and one escape for each character that needs
one (`Tree.text`).

Results:
1. `compactWith_list`, `compactWith_dict`: the compact text of a container by its parts.
2. `compactWith_eq_text`: it is the text of the document if the numbers are written alike.
3. `canonical_eq_toText`: the canonical text and the shown text of a container are the text of
   its document, if no number in it has a fraction or is too large.
-/

namespace GlyphScript

namespace Json

/-! ## Documents -/

/-- A JSON document. -/
inductive Tree where
  | null
  | bool (b : Bool)
  | integer (n : Int)
  | double (x : Float)
  | string (s : String)
  | array (items : List Tree)
  | object (members : List (String × Tree))

namespace Tree

/-- Integers below the limit are kept exactly; JSON has no numbers that are not finite. -/
def ofNumber (x : Float) : Tree :=
  if x.isFinite then
    match Decimal.smallInteger? x with
    | some n => integer n
    | none => double x
  else null

mutual

/-- The document of a value. -/
def ofValue : Value → Tree
  | .null => null
  | .bool b => bool b
  | .number x => ofNumber x
  | .text s => string s
  | .list items => array (ofItems items)
  | .dict entries => object (Table.ofList (ofEntries entries))

def ofItems : List Value → List Tree
  | [] => []
  | item :: rest => ofValue item :: ofItems rest

def ofEntries : List (String × Value) → List (String × Tree)
  | [] => []
  | (key, entry) :: rest => (key, ofValue entry) :: ofEntries rest

end

mutual

/-- The text of a document. -/
def text : Tree → List Char
  | null => "null".toList
  | bool b => (toString b).toList
  | integer n => Decimal.intDigits n
  | double x => Decimal.jsonLayout.text x
  | string s => Text.quoted s.toList
  | array items => '[' :: ([','].intercalate (itemTexts items) ++ [']'])
  | object members => '\x7b' :: ([','].intercalate (memberTexts members) ++ ['\x7d'])

def itemTexts : List Tree → List (List Char)
  | [] => []
  | item :: rest => text item :: itemTexts rest

def memberTexts : List (String × Tree) → List (List Char)
  | [] => []
  | (key, member) :: rest => (Text.quoted key.toList ++ ':' :: text member) :: memberTexts rest

end

theorem ofEntries_eq_map (entries : List (String × Value)) :
    ofEntries entries = entries.map fun pair => (pair.1, ofValue pair.2) := by
  induction entries with
  | nil => simp [ofEntries]
  | cons pair rest ih => simp [ofEntries, ih]

/-- The entries of a dict are in order already. -/
theorem ofList_ofEntries {entries : List (String × Value)} (ordered : Table.Ordered entries) :
    Table.ofList (ofEntries entries) = ofEntries entries := by
  apply Table.ofList_of_ordered
  rw [ofEntries_eq_map]
  exact List.pairwise_map.mpr ordered

theorem text_ofNumber (x : Float) : (ofNumber x).text = Decimal.jsonText x := by
  unfold ofNumber Decimal.jsonText
  split
  · cases Decimal.smallInteger? x with
    | none => rw [text]
    | some n => rw [text]
  · rw [text]

end Tree

/-! ## Compact texts by their parts -/

section Parts

variable (numberText : Float → List Char)

theorem compactItems_eq_intercalate (item : Value) (rest : List Value) :
    compactWith numberText item ++ compactItems numberText rest =
      [','].intercalate ((item :: rest).map (compactWith numberText)) ++ [']'] := by
  induction rest generalizing item with
  | nil => simp [compactItems]
  | cons next others ih => simp [compactItems, ih next, List.intercalate_cons_cons]

theorem compactWith_list (items : List Value) :
    compactWith numberText (.list items) =
      '[' :: ([','].intercalate (items.map (compactWith numberText)) ++ [']']) := by
  cases items with
  | nil => rw [compactWith]; rfl
  | cons item rest => rw [compactWith, compactItems_eq_intercalate]

/-- The text of an entry: the quoted key, a colon and the text of the value. -/
def entryText (pair : String × Value) : List Char :=
  Text.quoted pair.1.toList ++ ':' :: compactWith numberText pair.2

theorem compactEntries_eq_intercalate (pair : String × Value) (rest : List (String × Value)) :
    entryText numberText pair ++ compactEntries numberText rest =
      [','].intercalate ((pair :: rest).map (entryText numberText)) ++ ['\x7d'] := by
  induction rest generalizing pair with
  | nil => simp [compactEntries]
  | cons next others ih =>
      have behind := ih next
      simp only [entryText, List.append_assoc, List.cons_append] at behind
      simp [entryText, compactEntries, behind, List.intercalate_cons_cons]

theorem compactWith_dict (entries : List (String × Value)) :
    compactWith numberText (.dict entries) =
      '\x7b' :: ([','].intercalate (entries.map (entryText numberText)) ++ ['\x7d']) := by
  cases entries with
  | nil => rw [compactWith]; rfl
  | cons pair rest =>
      rw [compactWith, ← compactEntries_eq_intercalate, entryText, List.append_assoc,
        List.cons_append]

end Parts

/-! ## Both ways give one text -/

section Agreeing

variable {numberText : Float → List Char}

mutual

/-- If the numbers of a value are written as in its document, then so is the value. -/
theorem compactWith_eq_text (value : Value) (ordered : value.Ordered)
    (alike : ∀ x ∈ value.numbers, numberText x = Decimal.jsonText x) :
    compactWith numberText value = (Tree.ofValue value).text := by
  cases value with
  | null => rw [Tree.ofValue, Tree.text]; rfl
  | bool b => cases b <;> rw [Tree.ofValue, Tree.text] <;> rfl
  | number x =>
      rw [Tree.ofValue, Tree.text_ofNumber]
      exact alike x (by rw [Value.numbers]; exact List.mem_singleton_self x)
  | text s => rw [Tree.ofValue, Tree.text]; rfl
  | list items =>
      rw [Value.Ordered] at ordered
      rw [Value.numbers] at alike
      rw [compactWith_list, Tree.ofValue, Tree.text, itemTexts_eq items ordered alike]
  | dict entries =>
      rw [Value.Ordered] at ordered
      rw [Value.numbers] at alike
      -- The document sorts the members; the entries stand in that order already.
      rw [compactWith_dict, Tree.ofValue, Tree.ofList_ofEntries ordered.1, Tree.text,
        memberTexts_eq entries ordered.2 alike]

theorem itemTexts_eq (items : List Value) (ordered : Value.OrderedItems items)
    (alike : ∀ x ∈ Value.numbersOfItems items, numberText x = Decimal.jsonText x) :
    items.map (compactWith numberText) = Tree.itemTexts (Tree.ofItems items) := by
  cases items with
  | nil => rw [Tree.ofItems, Tree.itemTexts]; rfl
  | cons item rest =>
      rw [Value.OrderedItems] at ordered
      rw [Value.numbersOfItems, List.forall_mem_append] at alike
      rw [List.map_cons, Tree.ofItems, Tree.itemTexts, compactWith_eq_text item ordered.1 alike.1,
        itemTexts_eq rest ordered.2 alike.2]

theorem memberTexts_eq (entries : List (String × Value)) (ordered : Value.OrderedEntries entries)
    (alike : ∀ x ∈ Value.numbersOfEntries entries, numberText x = Decimal.jsonText x) :
    entries.map (entryText numberText) = Tree.memberTexts (Tree.ofEntries entries) := by
  cases entries with
  | nil => rw [Tree.ofEntries, Tree.memberTexts]; rfl
  | cons pair rest =>
      obtain ⟨key, entry⟩ := pair
      rw [Value.OrderedEntries] at ordered
      rw [Value.numbersOfEntries, List.forall_mem_append] at alike
      rw [List.map_cons, Tree.ofEntries, Tree.memberTexts, entryText,
        compactWith_eq_text entry ordered.1 alike.1, memberTexts_eq rest ordered.2 alike.2]

end

end Agreeing

end Json

/-- The canonical text of a list or a dict is what is shown for it, if every number in it is not
finite or is integral with a magnitude below `10 ^ 15`. Both are the text of its document. -/
theorem canonical_eq_toText (value : Value) (ordered : value.Ordered)
    (container : (∃ items, value = .list items) ∨ ∃ entries, value = .dict entries)
    (plain : ∀ x ∈ value.numbers, x.isFinite = true →
      ∃ n : ℕ, n < 10 ^ 15 ∧ (Decimal.Binary.ofFloat x).magnitude = n) :
    canonical value = value.toText.toList ∧
      value.toText.toList = (Json.Tree.ofValue value).text := by
  have shown : value.toText.toList = Json.compact value := by
    rcases container with ⟨items, rfl⟩ | ⟨entries, rfl⟩
    · exact String.toList_ofList
    · exact String.toList_ofList
  have compacted : Json.compact value = (Json.Tree.ofValue value).text :=
    Json.compactWith_eq_text value ordered fun _ _ => rfl
  have written : canonical value = (Json.Tree.ofValue value).text :=
    Json.compactWith_eq_text value ordered fun x member =>
      Decimal.numberText_eq_jsonText (plain x member)
  exact ⟨by rw [written, shown, compacted], by rw [shown, compacted]⟩

/-- A negative zero, no number, the largest integer below the limit and a negative one. -/
def plainNumbers : Value :=
  .dict [("empty", .dict []), ("numbers", .list [.number (-0.0), .number (0.0 / 0.0),
    .number 999999999999999, .number (-3.0), .text "\n\""])]

theorem canonical_eq_toText_plainNumbers :
    plainNumbers.Ordered ∧ plainNumbers.numbers = [-0.0, 0.0 / 0.0, 999999999999999, -3.0] ∧
    canonical plainNumbers = plainNumbers.toText.toList ∧
    plainNumbers.toText.toList = (Json.Tree.ofValue plainNumbers).text := by
  have ordered : plainNumbers.Ordered := by
    simp only [plainNumbers, Value.Ordered, Value.OrderedEntries, Value.OrderedItems]
    decide
  have numbers : plainNumbers.numbers = [-0.0, 0.0 / 0.0, 999999999999999, -3.0] := by
    simp [plainNumbers, Value.numbers, Value.numbersOfEntries, Value.numbersOfItems]
  refine ⟨ordered, numbers, canonical_eq_toText plainNumbers ordered (.inr ⟨_, rfl⟩) ?_⟩
  rw [numbers]
  simp only [List.forall_mem_cons, List.not_mem_nil, false_implies, implies_true, and_true]
  refine ⟨fun _ => ⟨0, by norm_num, ?_⟩, ?_, fun _ => ⟨999999999999999, by norm_num, ?_⟩,
    fun _ => ⟨3, by norm_num, ?_⟩⟩
  · rw [Decimal.Binary.ofFloat_negativeZero]
    norm_num [Decimal.Binary.magnitude]
  · intro finite
    exact absurd finite (by decide)
  · have parts : Decimal.Binary.ofFloat 999999999999999 =
        ⟨false, 7999999999999992, -3, false⟩ := by decide +kernel
    rw [parts]
    norm_num [Decimal.Binary.magnitude]
  · have parts : Decimal.Binary.ofFloat (-3.0) = ⟨true, 6755399441055744, -51, false⟩ := by
      decide +kernel
    rw [parts]
    norm_num [Decimal.Binary.magnitude]

end GlyphScript
