import GlyphScript.Proofs.Library.Grams
import GlyphScript.Proofs.Text.Split

/-!
# Suggestions

Texts without the separator can be read back from their gram. What is suggested after some
texts is therefore what followed them in the windows that were counted.

Results:
1. `parts_textGram`, `following?_textGram_iff`: the texts of a gram, and what follows in it.
2. `mem_candidates_iff`, `candidates_distinct`: what follows in all counted windows, if they
   have one text more than the given ones.
3. `ranked_ordered`, `ranked_descending`: the order of suggestions.
4. `suggests_ranked`: the answer to a request.
-/

namespace GlyphScript.Library

/-! ## Grams of texts -/

/-- The separator is in none of the texts. -/
def Separate (texts : List String) : Prop :=
  ∀ text ∈ texts, '|' ∉ text.toList

def textGram (texts : List String) : String :=
  gramOf (texts.map .text)

theorem parts_textGram {texts : List String} (nonempty : texts ≠ []) (separate : Separate texts) :
    (Text.splitOn separator (textGram texts).toList).map String.ofList = texts := by
  have pieces : (textGram texts).toList = Text.join separator (texts.map String.toList) := by
    rw [textGram, gramOf, String.toList_ofList, List.map_map]
    rfl
  have piecesSeparate : ∀ piece ∈ texts.map String.toList, '|' ∉ piece := by
    intro piece member
    obtain ⟨text, inTexts, rfl⟩ := List.mem_map.mp member
    exact separate text inTexts
  have cut : Text.CutAt separator (texts.map String.toList) :=
    Text.cutAt_mark (by simpa using nonempty) piecesSeparate
  rw [pieces, cut.splitOn_join (by decide), List.map_map]
  simp

theorem textGram_injective {texts others : List String} (nonempty : texts ≠ [])
    (separate : Separate texts) (othersNonempty : others ≠ []) (othersSeparate : Separate others)
    (same : textGram texts = textGram others) : texts = others := by
  rw [← parts_textGram nonempty separate, same, parts_textGram othersNonempty othersSeparate]

/-- A text follows the given ones in a gram if the texts of the gram start with all of them. -/
theorem following?_textGram_iff {given window : List String} {item : String}
    (nonempty : window ≠ []) (separate : Separate window) :
    following? given (textGram window) = some item ↔ given ++ [item] <+: window := by
  simp only [following?, parts_textGram nonempty separate]
  constructor
  · intro follows
    split at follows
    · next starts =>
        obtain ⟨others, rfl⟩ := List.isPrefixOf_iff_prefix.mp starts
        rw [List.getElem?_append_right (Nat.le_refl _), Nat.sub_self] at follows
        cases others with
        | nil => cases follows
        | cons next later =>
            cases follows
            exact ⟨later, List.append_assoc _ _ _⟩
    · cases follows
  · rintro ⟨later, rfl⟩
    rw [List.append_assoc, if_pos (List.isPrefixOf_iff_prefix.mpr (List.prefix_append given _)),
      List.getElem?_append_right (Nat.le_refl _), Nat.sub_self]
    rfl

/-- In a gram of one text more than the given ones, that text follows them. -/
theorem following?_textGram {given window : List String} {item : String}
    (longer : window.length = given.length + 1) (separate : Separate window) :
    following? given (textGram window) = some item ↔ window = given ++ [item] := by
  rw [following?_textGram_iff (List.ne_nil_of_length_eq_add_one longer) separate]
  constructor
  · intro starts
    exact (starts.eq_of_length (by rw [List.length_append, longer]; rfl)).symm
  · rintro rfl
    exact List.prefix_rfl

/-! ## Counted windows -/

theorem mem_counted_iff {grams : List String} {gram : String} {count : Nat} :
    (gram, count) ∈ counted grams ↔ gram ∈ grams ∧ count = grams.count gram := by
  have distinct := (ordered_counted grams).names_nodup
  constructor
  · intro member
    have found := Table.find?_of_mem distinct member
    rw [find?_counted] at found
    split at found
    · next counts =>
        cases found
        exact ⟨counts, rfl⟩
    · cases found
  · rintro ⟨counts, rfl⟩
    refine Table.mem_of_find? ?_
    rw [find?_counted, if_pos counts]

/-- The windows can be read back from their grams. -/
def Readable (observed : List (List String)) : Prop :=
  ∀ window ∈ observed, window ≠ [] ∧ Separate window

theorem Readable.textGram_inj {observed : List (List String)} (readable : Readable observed)
    {window other : List String} (member : window ∈ observed) (otherMember : other ∈ observed) :
    textGram window = textGram other ↔ window = other := by
  obtain ⟨nonempty, separate⟩ := readable window member
  obtain ⟨otherNonempty, otherSeparate⟩ := readable other otherMember
  exact ⟨textGram_injective nonempty separate otherNonempty otherSeparate, congrArg textGram⟩

theorem Readable.count_textGram {observed : List (List String)} (readable : Readable observed)
    {window : List String} (member : window ∈ observed) :
    (observed.map textGram).count (textGram window) = observed.count window := by
  rw [List.count, List.countP_map, List.count]
  refine List.countP_congr fun other otherMember => ?_
  simp only [Function.comp_apply, beq_iff_eq]
  exact readable.textGram_inj otherMember member

/-- The windows can stand behind the given texts, with one more text at the end. -/
def Extends (given : List String) (observed : List (List String)) : Prop :=
  ∀ window ∈ observed, window.length = given.length + 1 ∧ Separate window

namespace Extends

variable {given : List String} {observed : List (List String)}

theorem readable (longer : Extends given observed) : Readable observed := by
  intro window member
  obtain ⟨length, separate⟩ := longer window member
  exact ⟨List.ne_nil_of_length_eq_add_one length, separate⟩

theorem gram_of_following (longer : Extends given observed) {gram item : String}
    (counts : gram ∈ observed.map textGram) (follows : following? given gram = some item) :
    given ++ [item] ∈ observed ∧ gram = textGram (given ++ [item]) := by
  obtain ⟨window, member, rfl⟩ := List.mem_map.mp counts
  obtain ⟨length, separate⟩ := longer window member
  rw [following?_textGram length separate] at follows
  subst follows
  exact ⟨member, rfl⟩

theorem mem_candidates_iff (longer : Extends given observed) {item : String} {count : Nat} :
    (item, count) ∈ candidates given (counted (observed.map textGram)) ↔
      given ++ [item] ∈ observed ∧ count = observed.count (given ++ [item]) := by
  constructor
  · intro member
    obtain ⟨⟨gram, stored⟩, inTable, same⟩ := List.mem_filterMap.mp member
    obtain ⟨next, follows, pair⟩ := Option.map_eq_some_iff.mp same
    cases pair
    obtain ⟨counts, rfl⟩ := mem_counted_iff.mp inTable
    obtain ⟨present, rfl⟩ := longer.gram_of_following counts follows
    exact ⟨present, longer.readable.count_textGram present⟩
  · rintro ⟨present, rfl⟩
    obtain ⟨length, separate⟩ := longer _ present
    have follows := (following?_textGram length separate).mpr rfl
    have inTable := mem_counted_iff.mpr
      ⟨List.mem_map_of_mem present, (longer.readable.count_textGram present).symm⟩
    exact List.mem_filterMap.mpr ⟨_, inTable, Option.map_eq_some_iff.mpr ⟨item, follows, rfl⟩⟩

/-- Different grams go on with different texts. -/
theorem candidates_distinct (longer : Extends given observed) :
    ((candidates given (counted (observed.map textGram))).map Prod.fst).Nodup := by
  refine List.pairwise_map.mpr (List.pairwise_filterMap.mpr ?_)
  refine (ordered_counted _).imp_of_mem ?_
  rintro ⟨gram, count⟩ ⟨other, otherCount⟩ member otherMember below
  rintro ⟨item, _⟩ found ⟨otherItem, _⟩ otherFound same
  obtain ⟨_, follows, pair⟩ := Option.map_eq_some_iff.mp found
  obtain ⟨_, otherFollows, otherPair⟩ := Option.map_eq_some_iff.mp otherFound
  cases pair
  cases otherPair
  have named := (longer.gram_of_following (mem_counted_iff.mp member).1 follows).2
  have otherNamed := (longer.gram_of_following (mem_counted_iff.mp otherMember).1 otherFollows).2
  have equal : gram = other := by
    rw [named, otherNamed]
    exact congrArg (fun next => textGram (given ++ [next])) same
  exact String.lt_irrefl gram (equal ▸ below)

end Extends

/-! ## Order -/

theorem ranksBefore_iff {left right : String × Nat} :
    ranksBefore left right = true ↔ right.2 < left.2 ∨ left.2 = right.2 ∧ left.1 ≤ right.1 := by
  simp [ranksBefore]

theorem ranksBefore_trans (first second third : String × Nat)
    (before : ranksBefore first second = true) (next : ranksBefore second third = true) :
    ranksBefore first third = true := by
  rw [ranksBefore_iff] at before next ⊢
  rcases before with less | ⟨equal, text⟩
  · rcases next with nextLess | ⟨nextEqual, _⟩
    · exact .inl (nextLess.trans less)
    · exact .inl (nextEqual ▸ less)
  · rcases next with nextLess | ⟨nextEqual, nextText⟩
    · exact .inl (equal ▸ nextLess)
    · exact .inr ⟨equal.trans nextEqual, String.le_trans text nextText⟩

theorem ranksBefore_total (left right : String × Nat) :
    (ranksBefore left right || ranksBefore right left) = true := by
  rw [Bool.or_eq_true, ranksBefore_iff, ranksBefore_iff]
  rcases Nat.lt_trichotomy left.2 right.2 with less | equal | greater
  · exact .inr (.inl less)
  · rcases String.le_total left.1 right.1 with text | text
    · exact .inl (.inr ⟨equal, text⟩)
    · exact .inr (.inr ⟨equal.symm, text⟩)
  · exact .inl (.inl greater)

theorem ranked_perm (counts : List (String × Nat)) : (ranked counts).Perm counts :=
  List.mergeSort_perm counts ranksBefore

theorem ranked_ordered (counts : List (String × Nat)) :
    (ranked counts).Pairwise fun left right =>
      right.2 < left.2 ∨ left.2 = right.2 ∧ left.1 ≤ right.1 :=
  (List.pairwise_mergeSort ranksBefore_trans ranksBefore_total counts).imp ranksBefore_iff.mp

theorem ranked_descending {counts : List (String × Nat)} (distinct : (counts.map Prod.fst).Nodup) :
    (ranked counts).Pairwise fun left right =>
      right.2 < left.2 ∨ left.2 = right.2 ∧ left.1 < right.1 := by
  have different : (ranked counts).Pairwise fun left right => left.1 ≠ right.1 :=
    List.pairwise_map.mp (((ranked_perm counts).map Prod.fst).nodup_iff.mpr distinct)
  refine ((ranked_ordered counts).and different).imp ?_
  rintro left right ⟨less | ⟨equal, text⟩, unlike⟩
  · exact .inl less
  · refine .inr ⟨equal, ?_⟩
    rw [← String.not_le]
    intro reverse
    exact unlike (String.le_antisymm text reverse)

/-! ## Answers -/

/-- A suggestion names a text and how often it was counted. -/
structure IsSuggestion (suggestion : Value) (entry : String × Nat) : Prop where
  next : suggestion.field? "next" = some (.text entry.1)
  count : suggestion.field? "count" = some (.ofNat entry.2)

/-- The request was met, and these are the suggestions of the answer, in order. -/
structure Suggests (answer : Value) (found : List (String × Nat)) : Prop where
  met : answer.field? "ok" = some (.bool true)
  suggestions : ∃ items, answer.field? "suggestions" = some (.list items) ∧
    List.Forall₂ IsSuggestion items found

theorem isSuggestion_share (all : Nat) (entry : String × Nat) :
    IsSuggestion (share "next" "confidence" all entry) entry := by
  have distinct : ["next", "count", "confidence"].Nodup := by decide
  constructor
  · exact Value.field?_record (by exact distinct) "next"
  · exact Value.field?_record (by exact distinct) "count"

theorem suggests_ranked {body : Dict} {given : List Value}
    (asked : body.find? "prefix" = some (.list given)) (store : Store) :
    Suggests (suggest body store).1
      (ranked (candidates (given.map Value.toText) store.ngrams)) := by
  have distinct : ["mode", "prefix", "suggestions", "ok"].Nodup := by decide
  rw [suggest, asked]
  show Suggests (success _) _
  constructor
  · exact Value.field?_record (by exact distinct) "ok"
  · refine ⟨_, Value.field?_record (by exact distinct) "suggestions", ?_⟩
    rw [List.forall₂_map_left_iff]
    exact List.forall₂_same.mpr fun entry _ => isSuggestion_share _ entry

theorem suggests_suggest {body : Dict} {given : List String}
    (asked : body.find? "prefix" = some (.list (given.map .text))) (store : Store) :
    Suggests (suggest body store).1 (ranked (candidates given store.ngrams)) := by
  have texts : (given.map Value.text).map Value.toText = given := by
    rw [List.map_map]
    exact List.map_id given
  have suggests := suggests_ranked asked store
  rw [texts] at suggests
  exact suggests

end GlyphScript.Library
