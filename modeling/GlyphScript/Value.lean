import GlyphScript.Decimal.Reading
import GlyphScript.Table
import GlyphScript.Text.Blank

/-!
# Values

The one kind of data that programs, handlers and stores hold. The entries of a
dict stand in the order of their keys (`Value.Ordered`), so two values that hold
the same data are equal.
-/

namespace GlyphScript

inductive Value where
  | null
  | bool (b : Bool)
  | number (x : Float)
  | text (s : String)
  | list (items : List Value)
  | dict (entries : List (String × Value))
deriving Inhabited

abbrev Dict := Table Value

namespace Value

mutual

/-- At every depth the keys of a dict strictly ascend. -/
def Ordered : Value → Prop
  | list items => OrderedItems items
  | dict entries => Table.Ordered entries ∧ OrderedEntries entries
  | _ => True

def OrderedItems : List Value → Prop
  | [] => True
  | item :: rest => Ordered item ∧ OrderedItems rest

def OrderedEntries : List (String × Value) → Prop
  | [] => True
  | (_, entry) :: rest => Ordered entry ∧ OrderedEntries rest

end

mutual

/-- Equality of data, numbers being compared as numbers: `-0` equals `0` and NaN
equals nothing. -/
def same : Value → Value → Bool
  | null, null => true
  | bool a, bool b => a == b
  | number x, number y => x == y
  | text s, text t => s == t
  | list items, list others => sameItems items others
  | dict entries, dict others => sameEntries entries others
  | _, _ => false

def sameItems : List Value → List Value → Bool
  | [], [] => true
  | item :: rest, other :: others => same item other && sameItems rest others
  | _, _ => false

def sameEntries : List (String × Value) → List (String × Value) → Bool
  | [], [] => true
  | (key, entry) :: rest, (otherKey, other) :: others =>
      key == otherKey && same entry other && sameEntries rest others
  | _, _ => false

end

instance : BEq Value := ⟨same⟩

def ofNat (n : Nat) : Value :=
  number (Float.ofNat n)

def ofTexts (texts : List String) : Value :=
  list (texts.map text)

/-- A dict from its entries, the last one of a key winning. -/
def record (fields : List (String × Value)) : Value :=
  dict (Table.ofList fields)

def kindName : Value → String
  | null => "null"
  | bool _ => "bool"
  | number _ => "number"
  | text _ => "text"
  | list _ => "list"
  | dict _ => "dict"

def isNull : Value → Bool
  | null => true
  | _ => false

def number? : Value → Option Float
  | number x => some x
  | _ => none

def text? : Value → Option String
  | text s => some s
  | _ => none

def list? : Value → Option (List Value)
  | list items => some items
  | _ => none

def dict? : Value → Option Dict
  | dict entries => some entries
  | _ => none

/-- The entry of a dict under a key; other values have no entries. -/
def field? (value : Value) (key : String) : Option Value :=
  value.dict?.bind (Table.find? · key)

/-- Characters of a text, items of a list, entries of a dict. -/
def size : Value → Nat
  | text s => s.length
  | list items => items.length
  | dict entries => entries.length
  | _ => 0

/-- Every value stands for a truth value: null, zero, the empty text, `false`
and `0` stand for false. -/
def toBool : Value → Bool
  | null => false
  | bool b => b
  | number x => x != 0
  | text s => !(s == "" || s == "false" || s == "0")
  | list _ => true
  | dict _ => true

/-- The numeral that a text holds between blanks. -/
def numeral? (s : String) : Option Decimal.Numeral :=
  Decimal.readNumeral (Text.trim s.toList)

/-- Every value stands for a number: a numeric text for the number it holds,
whatever is not numeric for zero. -/
def toNumber : Value → Float
  | number x => x
  | text s => ((numeral? s).map Decimal.Numeral.toFloat).getD 0
  | _ => 0

/-- The place of a value in numeric order. The texts `nan` and `-nan` stand at its
two ends, although they stand for the same number. -/
def numericRank : Value → Int
  | number x => Decimal.totalRank x.toBits
  | text s => Decimal.totalRank (((numeral? s).map Decimal.Numeral.toBits).getD 0)
  | _ => Decimal.totalRank 0

end Value

end GlyphScript
