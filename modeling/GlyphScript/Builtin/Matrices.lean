import GlyphScript.Builtin.Numbers

/-!
# Builtins on matrices

A matrix is a list of rows, and its first row says how many columns it has. A
cell that is missing counts as zero, and a row that is no list as empty.
-/

namespace GlyphScript.Builtin

def row (value : Value) : List Value :=
  value.list?.getD []

def columnCount (matrix : List Value) : Nat :=
  ((matrix.head?.map row).getD []).length

/-- The number in row `i` and column `j`. -/
def cell (matrix : List Value) (i j : Nat) : Float :=
  ((matrix[i]?.bind fun r => (row r)[j]?).map Value.toNumber).getD 0

def productCell (a b : List Value) (i j : Nat) : Float :=
  sum ((List.range (columnCount a)).map fun k => cell a i k * cell b k j)

/-- The matrix product; null if the shapes do not fit or a factor is empty. -/
def matrixProduct : List Value → Value
  | .list a :: .list b :: _ =>
      if a = [] ∨ b = [] ∨ columnCount a ≠ b.length then .null
      else
        .list ((List.range a.length).map fun i =>
          .list ((List.range (columnCount b)).map fun j => .number (productCell a b i j)))
  | _ => .null

/-- Rows become columns. The cells are moved as they are, not as numbers. -/
def transpose : List Value → Value
  | .list (first :: others) :: _ =>
      let matrix := first :: others
      .list ((List.range (columnCount matrix)).map fun j =>
        .list (matrix.map fun r => (row r)[j]?.getD (.number 0)))
  | _ => .null

end GlyphScript.Builtin
