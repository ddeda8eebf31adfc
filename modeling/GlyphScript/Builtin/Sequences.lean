import GlyphScript.Decimal.Rounding
import GlyphScript.Value

/-!
# Builtins on lists and dicts

An argument of another kind than expected is passed through, or gives an empty
result.
-/

namespace GlyphScript.Builtin

def firstOrNull (args : List Value) : Value :=
  args.head?.getD .null

def sizeOfFirst (args : List Value) : Value :=
  .ofNat ((args.head?.map Value.size).getD 0)

/-- A number as a size: cut to an integer, negative numbers and NaN being zero. -/
def toSize (value : Value) : Nat :=
  Decimal.toNat64 (Decimal.greater value.toNumber 0)

def push : List Value → Value
  | .list items :: item :: _ => .list (items ++ [item])
  | args => firstOrNull args

def pop : List Value → Value
  | .list items :: _ => .list items.dropLast
  | args => firstOrNull args

/-- The items from a first place up to, and without, a second one. -/
def slice : List Value → Value
  | .list items :: start :: stop :: _ =>
      .list ((items.take (toSize stop)).drop (toSize start))
  | _ => .null

/-- Lists end to end; any other argument counts as a list of itself. -/
def concat (args : List Value) : Value :=
  .list (args.flatMap fun
    | .list items => items
    | other => [other])

def reverse : List Value → Value
  | .list items :: _ => .list items.reverse
  | args => firstOrNull args

/-- Numeric order. Items that stand for the same number keep their order. -/
def sort : List Value → Value
  | .list items :: _ => .list (items.mergeSort fun x y => x.numericRank ≤ y.numericRank)
  | args => firstOrNull args

def keys : List Value → Value
  | .dict entries :: _ => .ofTexts (Table.names entries)
  | _ => .list []

def values : List Value → Value
  | .dict entries :: _ => .list (Table.entries entries)
  | _ => .list []

/-! ## Lists of a given size -/

/-- As many numbers as a builtin puts into a list that it makes. -/
def maxLength : Nat := 0x100000

/-- The sum of two 64-bit integers, if 64 bits hold it. -/
def sum? (a b : Int64) : Option Int64 :=
  if (a + b).toInt = a.toInt + b.toInt then some (a + b) else none

/-- Whether a number comes before the end of a count, which goes up or down. -/
def isDue (stop step n : Int64) : Bool :=
  (0 < step && n < stop) || (step < 0 && stop < n)

/-- Counts on from a number, behind those taken so far (the last one stands first).
The count ends where `stop` or the greatest integer is passed, and gives nothing if
a number is due with no room left for it. -/
def countOn (stop step : Int64) : (room : Nat) → Int64 → List Int64 → List Int64
  | 0, n, taken => if isDue stop step n then [] else taken.reverse
  | room + 1, n, taken =>
      if isDue stop step n then
        match sum? n step with
        | some next => countOn stop step room next (n :: taken)
        | none => (n :: taken).reverse
      else taken.reverse

/-- The integers from `start` by `step` to before `stop`; none if there are more
than `maxLength`. -/
def steps (start stop step : Int64) : List Int64 :=
  countOn stop step maxLength start []

def integers (ns : List Int64) : Value :=
  .list (ns.map fun n => .number (Float.ofInt n.toInt))

def toInt64 (value : Value) : Int64 :=
  .ofInt (Decimal.toInt64 value.toNumber)

def range : List Value → Value
  | [] => .list []
  | [stop] => integers (steps 0 (toInt64 stop) 1)
  | [start, stop] => integers (steps (toInt64 start) (toInt64 stop) 1)
  | start :: stop :: step :: _ =>
      integers (steps (toInt64 start) (toInt64 stop) (toInt64 step))

/-- A list of one number, or with two sizes a list of such lists; empty if it
would hold more than `maxLength` numbers in all. -/
def filled (fill : Float) : List Value → Value
  | [] => .list []
  | [size] =>
      let columns := toSize size
      if columns ≤ maxLength then .list (List.replicate columns (.number fill)) else .list []
  | size :: width :: _ =>
      let rows := toSize size
      let columns := toSize width
      if rows * columns ≤ maxLength then
        .list (List.replicate rows (.list (List.replicate columns (.number fill))))
      else .list []

end GlyphScript.Builtin
