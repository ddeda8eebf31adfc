import GlyphScript.Fingerprint
import GlyphScript.Proofs.Decimal.NumberText
import GlyphScript.Proofs.Json.Quoted

/-!
# The canonical text identifies a value

Two values have the same canonical text exactly if they have the same normal form
(`canonical_eq_iff`). The text of a value cannot be continued to the text of
another value: every text ends at its closing quote or bracket, and a number ends
where no character of a number follows (`compact_unambiguous`).
-/

namespace GlyphScript

namespace Value

mutual

/-- What the canonical text tells of a value: at every depth a number that is not
finite counts as null, and `-0` counts as `0`. -/
def normal : Value → Value
  | number x =>
      if x.isFinite then
        if x = -0.0 then number 0.0 else number x
      else null
  | list items => list (normalItems items)
  | dict entries => dict (normalEntries entries)
  | value => value

def normalItems : List Value → List Value
  | [] => []
  | item :: rest => normal item :: normalItems rest

def normalEntries : List (String × Value) → List (String × Value)
  | [] => []
  | (key, entry) :: rest => (key, normal entry) :: normalEntries rest

end

theorem normal_number_eq {x : Float} (isNormal : (number x).normal = number x) :
    x.isFinite = true ∧ x ≠ -0.0 := by
  rw [normal] at isNormal
  split at isNormal
  · next finite =>
      refine ⟨finite, ?_⟩
      intro negativeZero
      rw [if_pos negativeZero, negativeZero] at isNormal
      have different : (0.0 : Float) ≠ -0.0 := by decide
      exact different (number.inj isNormal)
  · cases isNormal

mutual

theorem normal_normal (value : Value) : value.normal.normal = value.normal := by
  cases value with
  | null => simp [normal]
  | bool b => simp [normal]
  | number x =>
      have zero : (number 0.0).normal = number 0.0 := by
        rw [normal, if_pos (by decide), if_neg (by decide)]
      by_cases finite : x.isFinite = true
      · by_cases negativeZero : x = -0.0
        · rw [normal, if_pos finite, if_pos negativeZero, zero]
        · rw [normal, if_pos finite, if_neg negativeZero, normal, if_pos finite,
            if_neg negativeZero]
      · rw [normal, if_neg finite, normal]
        all_goals simp
  | text s => simp [normal]
  | list items => rw [normal, normal, normalItems_normalItems items]
  | dict entries => rw [normal, normal, normalEntries_normalEntries entries]

theorem normalItems_normalItems (items : List Value) :
    normalItems (normalItems items) = normalItems items := by
  cases items with
  | nil => simp [normalItems]
  | cons item rest =>
      rw [normalItems, normalItems, normal_normal item, normalItems_normalItems rest]

theorem normalEntries_normalEntries (entries : List (String × Value)) :
    normalEntries (normalEntries entries) = normalEntries entries := by
  cases entries with
  | nil => simp [normalEntries]
  | cons pair rest =>
      obtain ⟨key, entry⟩ := pair
      rw [normalEntries, normalEntries, normal_normal entry, normalEntries_normalEntries rest]

end

end Value

namespace Json

open Decimal

/-! ## Texts without other texts inside -/

section Scalars

variable (numberText : Float → List Char)

theorem compactWith_null : compactWith numberText .null = ['n', 'u', 'l', 'l'] := rfl

theorem compactWith_true : compactWith numberText (.bool true) = ['t', 'r', 'u', 'e'] := rfl

theorem compactWith_false :
    compactWith numberText (.bool false) = ['f', 'a', 'l', 's', 'e'] := rfl

theorem compactWith_number (x : Float) :
    compactWith numberText (.number x) = numberText x := rfl

theorem compactWith_text (s : String) :
    compactWith numberText (.text s) = Text.quoted s.toList := rfl

end Scalars

/-! ## The text depends on the normal form only -/

mutual

theorem compactWith_normal (value : Value) :
    compactWith numberText value.normal = compactWith numberText value := by
  cases value with
  | null => simp [Value.normal]
  | bool b => simp [Value.normal]
  | number x =>
      by_cases finite : x.isFinite = true
      · by_cases negativeZero : x = -0.0
        · rw [Value.normal, if_pos finite, if_pos negativeZero, negativeZero, compactWith_number,
            compactWith_number, numberText_negativeZero]
        · rw [Value.normal, if_pos finite, if_neg negativeZero]
      · rw [Value.normal, if_neg finite, compactWith_null, compactWith_number, numberText,
          if_neg finite]
        rfl
  | text s => simp [Value.normal]
  | list items =>
      cases items with
      | nil => simp [Value.normal, Value.normalItems]
      | cons item rest =>
          rw [Value.normal, Value.normalItems, compactWith, compactWith, compactWith_normal item,
            compactItems_normal rest]
  | dict entries =>
      cases entries with
      | nil => simp [Value.normal, Value.normalEntries]
      | cons pair rest =>
          obtain ⟨key, entry⟩ := pair
          rw [Value.normal, Value.normalEntries, compactWith, compactWith,
            compactWith_normal entry, compactEntries_normal rest]

theorem compactItems_normal (items : List Value) :
    compactItems numberText (Value.normalItems items) = compactItems numberText items := by
  cases items with
  | nil => simp [Value.normalItems]
  | cons item rest =>
      rw [Value.normalItems, compactItems, compactItems, compactWith_normal item,
        compactItems_normal rest]

theorem compactEntries_normal (entries : List (String × Value)) :
    compactEntries numberText (Value.normalEntries entries) =
      compactEntries numberText entries := by
  cases entries with
  | nil => simp [Value.normalEntries]
  | cons pair rest =>
      obtain ⟨key, entry⟩ := pair
      rw [Value.normalEntries, compactEntries, compactEntries, compactWith_normal entry,
        compactEntries_normal rest]

end

/-! ## One text, one value -/

/-- The kind of the values whose text starts with a character. -/
def kindOfLead (c : Char) : String :=
  if c = '"' then "text"
  else if c = '[' then "list"
  else if c = '\x7b' then "dict"
  else if c = 'n' then "null"
  else if c = 't' ∨ c = 'f' then "bool"
  else if isNumberChar c then "number"
  else ""

theorem kindOfLead_number {c : Char} (inNumber : isNumberChar c = true) :
    kindOfLead c = "number" := by
  have differs : ∀ other, isNumberChar other = false → c ≠ other := by
    intro other outside same
    rw [same, outside] at inNumber
    cases inNumber
  simp [kindOfLead, inNumber, differs '"' (by decide), differs '[' (by decide),
    differs '\x7b' (by decide), differs 'n' (by decide), differs 't' (by decide),
    differs 'f' (by decide)]

/-- The first character of a text tells the kind of its value. -/
theorem compactWith_lead {value : Value} (isNormal : value.normal = value) :
    ∃ c rest, compactWith numberText value = c :: rest ∧ kindOfLead c = value.kindName := by
  cases value with
  | null => exact ⟨'n', _, compactWith_null numberText, rfl⟩
  | bool b =>
      cases b with
      | false => exact ⟨'f', _, compactWith_false numberText, rfl⟩
      | true => exact ⟨'t', _, compactWith_true numberText, rfl⟩
  | number x =>
      obtain ⟨finite, _⟩ := Value.normal_number_eq isNormal
      obtain ⟨c, rest, text⟩ := List.exists_cons_of_ne_nil (numberText_ne_nil finite)
      have inNumber := numberText_chars finite (text ▸ List.mem_cons_self)
      exact ⟨c, rest, text, kindOfLead_number inNumber⟩
  | text s => exact ⟨'"', _, compactWith_text numberText s, rfl⟩
  | list items =>
      cases items with
      | nil => exact ⟨'[', _, by rw [compactWith], rfl⟩
      | cons item rest => exact ⟨'[', _, by rw [compactWith], rfl⟩
  | dict entries =>
      cases entries with
      | nil => exact ⟨'\x7b', _, by rw [compactWith], rfl⟩
      | cons pair rest => exact ⟨'\x7b', _, by rw [compactWith], rfl⟩

theorem kindName_eq_of_text_eq {left right : Value} (leftNormal : left.normal = left)
    (rightNormal : right.normal = right) {leftRest rightRest : List Char}
    (same : compactWith numberText left ++ leftRest =
      compactWith numberText right ++ rightRest) : left.kindName = right.kindName := by
  obtain ⟨c, rest, text, kind⟩ := compactWith_lead leftNormal
  obtain ⟨otherC, otherRest, otherText, otherKind⟩ := compactWith_lead rightNormal
  rw [text, otherText] at same
  rw [← kind, ← otherKind, (List.cons.inj same).1]

theorem kindName_ne_empty (value : Value) : value.kindName ≠ "" := by
  cases value <;> simp [Value.kindName]

/-- No text of a value starts with a closing bracket. -/
theorem compactWith_ne_closing {value : Value} (isNormal : value.normal = value)
    {rest other : List Char} : ']' :: other ≠ compactWith numberText value ++ rest := by
  intro same
  obtain ⟨c, behind, text, kind⟩ := compactWith_lead isNormal
  rw [text] at same
  rw [← (List.cons.inj same).1] at kind
  exact kindName_ne_empty value (kind ▸ by decide)

/-- A number ends here. -/
def Stops (rest : List Char) : Prop :=
  ∀ c ∈ rest.head?, isNumberChar c = false

theorem stops_nil : Stops [] := by
  simp [Stops]

theorem stops_compactItems (items : List Value) (rest : List Char) :
    Stops (compactItems numberText items ++ rest) := by
  cases items with
  | nil => simp [Stops, compactItems, isNumberChar, Text.isAsciiDigit]
  | cons item others => simp [Stops, compactItems, isNumberChar, Text.isAsciiDigit]

theorem stops_compactEntries (entries : List (String × Value)) (rest : List Char) :
    Stops (compactEntries numberText entries ++ rest) := by
  cases entries with
  | nil => simp [Stops, compactEntries, isNumberChar, Text.isAsciiDigit]
  | cons pair others => simp [Stops, compactEntries, isNumberChar, Text.isAsciiDigit]

theorem numberText_unambiguous {x y : Float} (xNormal : (Value.number x).normal = .number x)
    (yNormal : (Value.number y).normal = .number y) {xRest yRest : List Char}
    (xStops : Stops xRest) (yStops : Stops yRest)
    (same : numberText x ++ xRest = numberText y ++ yRest) : x = y ∧ xRest = yRest := by
  obtain ⟨xFinite, xPositive⟩ := Value.normal_number_eq xNormal
  obtain ⟨yFinite, yPositive⟩ := Value.normal_number_eq yNormal
  have xParts := Stretch.cut_append (fun c => numberText_chars xFinite) xStops
  have yParts := Stretch.cut_append (fun c => numberText_chars yFinite) yStops
  rw [same] at xParts
  have sameText : numberText x = numberText y := xParts.1.symm.trans yParts.1
  refine ⟨?_, xParts.2.symm.trans yParts.2⟩
  rcases numberText_injective xFinite yFinite sameText with equal | ⟨xZero, yZero⟩
  · exact equal
  · have xPlus := ((Binary.mantissa_eq_zero_iff x).mp xZero).resolve_right xPositive
    have yPlus := ((Binary.mantissa_eq_zero_iff y).mp yZero).resolve_right yPositive
    rw [xPlus, yPlus]

mutual

/-- If two texts of values agree, with whatever stands behind them, then the values
agree, and so does what stands behind them. -/
theorem compact_unambiguous (left right : Value) (leftNormal : left.normal = left)
    (rightNormal : right.normal = right) {leftRest rightRest : List Char}
    (leftStops : Stops leftRest) (rightStops : Stops rightRest)
    (same : compactWith numberText left ++ leftRest =
      compactWith numberText right ++ rightRest) : left = right ∧ leftRest = rightRest := by
  have sameKind := kindName_eq_of_text_eq leftNormal rightNormal same
  cases left with
  | null =>
      cases right with
      | null => exact ⟨rfl, List.append_cancel_left same⟩
      | _ => simp [Value.kindName] at sameKind
  | bool b =>
      cases right with
      | bool c =>
          cases b <;> cases c <;> simp [compactWith_true, compactWith_false] at same
          · exact ⟨rfl, same⟩
          · exact ⟨rfl, same⟩
      | _ => simp [Value.kindName] at sameKind
  | number x =>
      cases right with
      | number y =>
          rw [compactWith_number, compactWith_number] at same
          obtain ⟨sameNumber, sameRest⟩ :=
            numberText_unambiguous leftNormal rightNormal leftStops rightStops same
          exact ⟨congrArg Value.number sameNumber, sameRest⟩
      | _ => simp [Value.kindName] at sameKind
  | text s =>
      cases right with
      | text t =>
          rw [compactWith_text, compactWith_text] at same
          obtain ⟨sameText, sameRest⟩ := quoted_append_injective same
          exact ⟨congrArg Value.text (String.toList_injective sameText), sameRest⟩
      | _ => simp [Value.kindName] at sameKind
  | list items =>
      cases right with
      | list others =>
          rw [Value.normal, Value.list.injEq] at leftNormal rightNormal
          cases items with
          | nil =>
              cases others with
              | nil => exact ⟨rfl, List.append_cancel_left same⟩
              | cons other others =>
                  rw [Value.normalItems, List.cons.injEq] at rightNormal
                  simp only [compactWith, List.cons_append, List.nil_append, List.append_assoc,
                    List.cons.injEq, true_and] at same
                  exact absurd same (compactWith_ne_closing rightNormal.1)
          | cons item rest =>
              cases others with
              | nil =>
                  rw [Value.normalItems, List.cons.injEq] at leftNormal
                  simp only [compactWith, List.cons_append, List.nil_append, List.append_assoc,
                    List.cons.injEq, true_and] at same
                  exact absurd same.symm (compactWith_ne_closing leftNormal.1)
              | cons other others =>
                  simp only [compactWith, List.cons_append, List.cons.injEq, true_and] at same
                  have behind : compactItems numberText (item :: rest) ++ leftRest =
                      compactItems numberText (other :: others) ++ rightRest := by
                    rw [compactItems, compactItems, List.cons_append, List.cons_append, same]
                  obtain ⟨sameItems, sameRest⟩ := compactItems_unambiguous (item :: rest)
                    (other :: others) leftNormal rightNormal behind
                  exact ⟨congrArg Value.list sameItems, sameRest⟩
      | _ => simp [Value.kindName] at sameKind
  | dict entries =>
      cases right with
      | dict others =>
          rw [Value.normal, Value.dict.injEq] at leftNormal rightNormal
          cases entries with
          | nil =>
              cases others with
              | nil => exact ⟨rfl, List.append_cancel_left same⟩
              | cons pair others => simp [compactWith, Text.quoted] at same
          | cons pair rest =>
              cases others with
              | nil => simp [compactWith, Text.quoted] at same
              | cons other others =>
                  simp only [compactWith, List.cons_append, List.cons.injEq, true_and] at same
                  have behind : compactEntries numberText (pair :: rest) ++ leftRest =
                      compactEntries numberText (other :: others) ++ rightRest := by
                    rw [compactEntries, compactEntries, List.cons_append, List.cons_append, same]
                  obtain ⟨sameEntries, sameRest⟩ := compactEntries_unambiguous (pair :: rest)
                    (other :: others) leftNormal rightNormal behind
                  exact ⟨congrArg Value.dict sameEntries, sameRest⟩
      | _ => simp [Value.kindName] at sameKind

theorem compactItems_unambiguous (items others : List Value)
    (itemsNormal : Value.normalItems items = items)
    (othersNormal : Value.normalItems others = others) {leftRest rightRest : List Char}
    (same : compactItems numberText items ++ leftRest =
      compactItems numberText others ++ rightRest) : items = others ∧ leftRest = rightRest := by
  cases items with
  | nil =>
      cases others with
      | nil => exact ⟨rfl, List.append_cancel_left same⟩
      | cons other others => simp [compactItems] at same
  | cons item rest =>
      cases others with
      | nil => simp [compactItems] at same
      | cons other others =>
          rw [Value.normalItems, List.cons.injEq] at itemsNormal othersNormal
          rw [compactItems, compactItems, List.cons_append, List.cons_append, List.append_assoc,
            List.append_assoc] at same
          obtain ⟨sameItem, behind⟩ := compact_unambiguous item other itemsNormal.1
            othersNormal.1 (stops_compactItems rest _) (stops_compactItems others _)
            (List.cons.inj same).2
          obtain ⟨sameItems, sameRest⟩ := compactItems_unambiguous rest others itemsNormal.2
            othersNormal.2 behind
          exact ⟨by rw [sameItem, sameItems], sameRest⟩

theorem compactEntries_unambiguous (entries others : List (String × Value))
    (entriesNormal : Value.normalEntries entries = entries)
    (othersNormal : Value.normalEntries others = others) {leftRest rightRest : List Char}
    (same : compactEntries numberText entries ++ leftRest =
      compactEntries numberText others ++ rightRest) :
    entries = others ∧ leftRest = rightRest := by
  cases entries with
  | nil =>
      cases others with
      | nil => exact ⟨rfl, List.append_cancel_left same⟩
      | cons pair others => simp [compactEntries] at same
  | cons pair rest =>
      cases others with
      | nil => simp [compactEntries] at same
      | cons other others =>
          obtain ⟨key, entry⟩ := pair
          obtain ⟨otherKey, otherEntry⟩ := other
          rw [Value.normalEntries, List.cons.injEq, Prod.mk.injEq] at entriesNormal othersNormal
          simp only [compactEntries, List.cons_append, List.append_assoc, List.cons.injEq,
            true_and] at same
          obtain ⟨sameKey, behindKey⟩ := quoted_append_injective same
          obtain ⟨sameEntry, behind⟩ := compact_unambiguous entry otherEntry entriesNormal.1.2
            othersNormal.1.2 (stops_compactEntries rest _) (stops_compactEntries others _)
            (List.cons.inj behindKey).2
          obtain ⟨sameEntries, sameRest⟩ := compactEntries_unambiguous rest others
            entriesNormal.2 othersNormal.2 behind
          exact ⟨by rw [String.toList_injective sameKey, sameEntry, sameEntries], sameRest⟩

end

end Json

/-- The canonical text identifies a value up to its normal form, and nothing more. -/
theorem canonical_eq_iff (left right : Value) :
    canonical left = canonical right ↔ left.normal = right.normal := by
  constructor
  · intro same
    rw [canonical, canonical, ← Json.compactWith_normal left, ← Json.compactWith_normal right,
      ← List.append_nil (Json.compactWith _ left.normal),
      ← List.append_nil (Json.compactWith _ right.normal)] at same
    exact (Json.compact_unambiguous left.normal right.normal (Value.normal_normal left)
      (Value.normal_normal right) Json.stops_nil Json.stops_nil same).1
  · intro same
    rw [canonical, canonical, ← Json.compactWith_normal left, ← Json.compactWith_normal right,
      same]

end GlyphScript
