import GlyphScript.Builtin.Matrices

/-!
# Products and transposed matrices

A matrix is a list of rows that need not have the same length, and need not be lists. The
product and the transposed matrix have rows of one length, whatever they are made of
(`rectangle`). The shape of a matrix is taken from its first row, and what stands outside of a
row counts as zero (`entry`), so each of the builtins is a rectangle of entries.

Results:
1. `transpose_eq`, `matrixProduct_eq`: the two builtins as rectangles.
2. `productCell_transposed`: a cell of the product of the transposed factors.
3. `transpose_matrixProduct`: transposing a product reverses it, exactly if the second factor
   has columns.
4. `transpose_transpose`: transposing twice gives all rows the width of the first one.
-/

namespace GlyphScript.Builtin

/-! ## Multiplication commutes -/

section Floats

open Float.Model Float.Model.UnpackedFloat

theorem sign_mul_comm (s t : Sign) : s * t = t * s := by
  cases s <;> cases t <;> rfl

theorem unpacked_mul_comm (format : Format) (x y : UnpackedFloat) :
    UnpackedFloat.mul format x y = UnpackedFloat.mul format y x := by
  cases x with
  | notANumber => cases y <;> rfl
  | infinity s =>
      cases y with
      | notANumber => rfl
      | infinity t => exact congrArg UnpackedFloat.infinity (sign_mul_comm s t)
      | zero t => rfl
      | finite t m e positive => exact congrArg UnpackedFloat.infinity (sign_mul_comm s t)
  | zero s =>
      cases y with
      | notANumber => rfl
      | infinity t => rfl
      | zero t => exact congrArg UnpackedFloat.zero (sign_mul_comm s t)
      | finite t m e positive => exact congrArg UnpackedFloat.zero (sign_mul_comm s t)
  | finite s m e positive =>
      cases y with
      | notANumber => rfl
      | infinity t => exact congrArg UnpackedFloat.infinity (sign_mul_comm s t)
      | zero t => exact congrArg UnpackedFloat.zero (sign_mul_comm s t)
      | finite t n f otherPositive =>
          show roundWithAccuracy format (s * t) (m * n) (e + f) .exact =
            roundWithAccuracy format (t * s) (n * m) (f + e) .exact
          rw [sign_mul_comm, Nat.mul_comm, Int.add_comm]

theorem float_mul_comm (x y : Float) : x * y = y * x := by
  have packed : Float.Model.mul x.toModel y.toModel = Float.Model.mul y.toModel x.toModel :=
    congrArg Float.Model.pack (unpacked_mul_comm .binary64 x.toModel.unpack y.toModel.unpack)
  exact congrArg Float.ofModel packed

end Floats

/-! ## Entries and rectangles -/

/-- What stands in row `i` and column `j`, a missing entry being zero. -/
def entry (matrix : List Value) (i j : Nat) : Value :=
  (matrix[i]?.bind fun r => (row r)[j]?).getD (.number 0)

/-- The rows of a matrix of a given shape. -/
def rectangle (rows columns : Nat) (f : Nat → Nat → Value) : List Value :=
  (List.range rows).map fun i => .list ((List.range columns).map fun j => f i j)

/-- A missing cell is zero, taken as a number or as a value. -/
theorem cell_eq (matrix : List Value) (i j : Nat) :
    cell matrix i j = (entry matrix i j).toNumber := by
  unfold cell entry
  cases matrix[i]?.bind fun r => (row r)[j]? with
  | none => rfl
  | some value => rfl

section Rectangle

variable {rows columns : Nat} (f : Nat → Nat → Value)

theorem length_rectangle : (rectangle rows columns f).length = rows := by
  simp [rectangle]

theorem columnCount_rectangle (nonempty : 0 < rows) :
    columnCount (rectangle rows columns f) = columns := by
  obtain ⟨others, rfl⟩ := Nat.exists_eq_succ_of_ne_zero (Nat.ne_of_gt nonempty)
  simp [columnCount, rectangle, List.range_succ_eq_map, row, Value.list?]

theorem entry_rectangle {i j : Nat} (rowInside : i < rows) (columnInside : j < columns) :
    entry (rectangle rows columns f) i j = f i j := by
  simp [entry, rectangle, row, Value.list?, rowInside, columnInside]

theorem rectangle_congr {f g : Nat → Nat → Value}
    (same : ∀ i < rows, ∀ j < columns, f i j = g i j) :
    rectangle rows columns f = rectangle rows columns g := by
  refine List.map_congr_left fun i inRows => congrArg Value.list ?_
  refine List.map_congr_left fun j inColumns => ?_
  exact same i (List.mem_range.mp inRows) j (List.mem_range.mp inColumns)

end Rectangle

/-! ## The builtins as rectangles -/

/-- The rows of the transposed matrix. -/
def transposedRows (matrix : List Value) : List Value :=
  rectangle (columnCount matrix) matrix.length fun j i => entry matrix i j

/-- A column of a matrix, row by row. -/
theorem map_row_eq (matrix : List Value) (j : Nat) :
    (matrix.map fun r => (row r)[j]?.getD (.number 0)) =
      (List.range matrix.length).map fun i => entry matrix i j := by
  apply List.ext_getElem?
  intro i
  rw [List.getElem?_map, List.getElem?_map]
  rcases Nat.lt_or_ge i matrix.length with inside | outside
  · rw [List.getElem?_range inside, List.getElem?_eq_getElem inside]
    simp [entry, List.getElem?_eq_getElem inside]
  · rw [List.getElem?_eq_none outside, List.getElem?_eq_none (by simpa using outside)]
    rfl

theorem transpose_eq {matrix : List Value} (nonempty : matrix ≠ []) :
    transpose [.list matrix] = .list (transposedRows matrix) := by
  cases matrix with
  | nil => exact absurd rfl nonempty
  | cons first others =>
      simp only [transpose, map_row_eq]
      rfl

theorem matrixProduct_eq_ite (a b : List Value) :
    matrixProduct [.list a, .list b] =
      if a = [] ∨ b = [] ∨ columnCount a ≠ b.length then .null
      else .list (rectangle a.length (columnCount b) fun i j => .number (productCell a b i j)) :=
  rfl

/-- What two matrices need to have a product. -/
structure Fitting (a b : List Value) : Prop where
  left : a ≠ []
  right : b ≠ []
  shape : columnCount a = b.length

theorem matrixProduct_eq {a b : List Value} (fitting : Fitting a b) :
    matrixProduct [.list a, .list b] =
      .list (rectangle a.length (columnCount b) fun i j => .number (productCell a b i j)) := by
  rw [matrixProduct_eq_ite, if_neg]
  rintro (none | none | unequal)
  · exact fitting.left none
  · exact fitting.right none
  · exact unequal fitting.shape

theorem matrixProduct_ne_null_iff {a b : List Value} :
    matrixProduct [.list a, .list b] ≠ .null ↔ Fitting a b := by
  constructor
  · intro defined
    rw [matrixProduct_eq_ite] at defined
    have fits : ¬ (a = [] ∨ b = [] ∨ columnCount a ≠ b.length) := by
      intro mismatch
      rw [if_pos mismatch] at defined
      exact defined rfl
    simp only [not_or, ne_eq, Classical.not_not] at fits
    exact ⟨fits.1, fits.2.1, fits.2.2⟩
  · intro fitting
    rw [matrixProduct_eq fitting]
    nofun

/-! ## Transposed factors -/

theorem length_transposedRows (matrix : List Value) :
    (transposedRows matrix).length = columnCount matrix :=
  length_rectangle _

theorem columnCount_transposedRows {matrix : List Value} (columns : 0 < columnCount matrix) :
    columnCount (transposedRows matrix) = matrix.length :=
  columnCount_rectangle _ columns

theorem transposedRows_ne_nil {matrix : List Value} (columns : 0 < columnCount matrix) :
    transposedRows matrix ≠ [] := by
  rw [← List.length_pos_iff, length_transposedRows]
  exact columns

theorem entry_transposedRows {matrix : List Value} {i j : Nat} (rowInside : j < matrix.length)
    (columnInside : i < columnCount matrix) :
    entry (transposedRows matrix) i j = entry matrix j i := by
  rw [transposedRows, entry_rectangle _ columnInside rowInside]

theorem cell_transposedRows {matrix : List Value} {i j : Nat} (rowInside : j < matrix.length)
    (columnInside : i < columnCount matrix) :
    cell (transposedRows matrix) i j = cell matrix j i := by
  rw [cell_eq, cell_eq, entry_transposedRows rowInside columnInside]

theorem Fitting.transposed {a b : List Value} (fitting : Fitting a b)
    (columns : 0 < columnCount b) : Fitting (transposedRows b) (transposedRows a) where
  left := transposedRows_ne_nil columns
  right := transposedRows_ne_nil (fitting.shape ▸ List.length_pos_iff.mpr fitting.right)
  shape := by rw [columnCount_transposedRows columns, length_transposedRows, fitting.shape]

/-- Where both factors are transposed, the same numbers are multiplied and added in the same
order. -/
theorem productCell_transposed {a b : List Value} (fitting : Fitting a b) {i j : Nat}
    (rowInside : i < a.length) (columnInside : j < columnCount b) :
    productCell (transposedRows b) (transposedRows a) j i = productCell a b i j := by
  have width : columnCount (transposedRows b) = columnCount a := by
    rw [columnCount_transposedRows (Nat.zero_lt_of_lt columnInside), fitting.shape]
  unfold productCell
  rw [width]
  congr 1
  refine List.map_congr_left fun k member => ?_
  have inside : k < columnCount a := List.mem_range.mp member
  rw [cell_transposedRows (fitting.shape ▸ inside) columnInside,
    cell_transposedRows rowInside inside, float_mul_comm]

/-- The transposed product, cell by cell. -/
theorem transpose_product {a b : List Value} (fitting : Fitting a b) :
    transpose [matrixProduct [.list a, .list b]] =
      .list (rectangle (columnCount b) a.length fun j i => .number (productCell a b i j)) := by
  have rows : 0 < a.length := List.length_pos_iff.mpr fitting.left
  have nonempty : rectangle a.length (columnCount b)
      (fun i j => .number (productCell a b i j)) ≠ [] := by
    rw [← List.length_pos_iff, length_rectangle]
    exact rows
  rw [matrixProduct_eq fitting, transpose_eq nonempty, transposedRows,
    columnCount_rectangle _ rows, length_rectangle]
  congr 1
  exact rectangle_congr fun j inColumns i inRows => entry_rectangle _ inRows inColumns

/-- Where a product is defined, transposing it gives the product of the transposed factors in
reverse order, exactly if the first row of the second factor is not empty. Rows can be of
any length or no lists, and cells need not be numbers. -/
theorem transpose_matrixProduct {a b : List Value}
    (defined : matrixProduct [.list a, .list b] ≠ .null) :
    transpose [matrixProduct [.list a, .list b]] =
      matrixProduct [transpose [.list b], transpose [.list a]] ↔ 0 < columnCount b := by
  have fitting := matrixProduct_ne_null_iff.mp defined
  rw [transpose_product fitting, transpose_eq fitting.right, transpose_eq fitting.left]
  constructor
  · intro reversed
    -- Without columns there are no transposed rows, and no product of them.
    refine Nat.pos_of_ne_zero fun noColumns => ?_
    have none : transposedRows b = [] := by
      rw [← List.length_eq_zero_iff, length_transposedRows, noColumns]
    rw [none] at reversed
    cases reversed
  · intro columns
    have aColumns : 0 < columnCount a :=
      fitting.shape ▸ List.length_pos_iff.mpr fitting.right
    rw [matrixProduct_eq (fitting.transposed columns), length_transposedRows,
      columnCount_transposedRows aColumns]
    congr 1
    refine rectangle_congr fun j inColumns i inRows => ?_
    rw [productCell_transposed fitting inRows inColumns]

/-- A factor with a short row and a numeric text, and one with a row that is no list. -/
def raggedFactors : List Value × List Value :=
  ([.list [.number 1, .text " 2 "], .list [.number 3]],
    [.list [.number 5, .bool true, .number 6], .text "no row"])

theorem transpose_matrixProduct_raggedFactors :
    matrixProduct [.list raggedFactors.1, .list raggedFactors.2] ≠ .null ∧
      0 < columnCount raggedFactors.2 ∧
      transpose [matrixProduct [.list raggedFactors.1, .list raggedFactors.2]] =
        matrixProduct [transpose [.list raggedFactors.2], transpose [.list raggedFactors.1]] := by
  have defined : matrixProduct [.list raggedFactors.1, .list raggedFactors.2] ≠ .null :=
    matrixProduct_ne_null_iff.mpr ⟨nofun, nofun, rfl⟩
  have columns : 0 < columnCount raggedFactors.2 := by decide
  exact ⟨defined, columns, (transpose_matrixProduct defined).mpr columns⟩

/-! ## Transposing twice -/

/-- A row of a given width: what is too much is cut off, and what is missing is zero. -/
def fitted (width : Nat) (cells : List Value) : List Value :=
  cells.take width ++ List.replicate (width - cells.length) (.number 0)

theorem length_fitted (width : Nat) (cells : List Value) : (fitted width cells).length = width := by
  rw [fitted, List.length_append, List.length_take, List.length_replicate]
  omega

theorem fitted_eq_map (width : Nat) (cells : List Value) :
    fitted width cells = (List.range width).map fun j => cells[j]?.getD (.number 0) := by
  have size := length_fitted width cells
  unfold fitted at size ⊢
  apply List.ext_getElem
  · rw [size, List.length_map, List.length_range]
  intro j inFitted inRange
  rw [List.getElem_map, List.getElem_range]
  rcases Nat.lt_or_ge j cells.length with inside | outside
  · have taken : j < (cells.take width).length := by
      rw [List.length_take]
      exact Nat.lt_min.mpr ⟨size ▸ inFitted, inside⟩
    rw [List.getElem_append_left taken, List.getElem_take, List.getElem?_eq_getElem inside]
    rfl
  · have behind : (cells.take width).length ≤ j :=
      Nat.le_trans (List.length_take_le' width cells) outside
    rw [List.getElem_append_right behind, List.getElem_replicate, List.getElem?_eq_none outside]
    rfl

theorem fitted_eq_self_iff {width : Nat} {cells : List Value} :
    fitted width cells = cells ↔ cells.length = width := by
  constructor
  · intro unchanged
    rw [← unchanged, length_fitted]
  · rintro rfl
    rw [fitted, List.take_length, Nat.sub_self, List.replicate_zero, List.append_nil]

/-- The entries of a matrix, row by row, in as many columns as one likes. -/
theorem rectangle_entry (matrix : List Value) (width : Nat) :
    rectangle matrix.length width (entry matrix) =
      matrix.map fun r => .list (fitted width (row r)) := by
  unfold rectangle
  apply List.ext_getElem
  · rw [List.length_map, List.length_map, List.length_range]
  intro i _ inMatrix
  have inside : i < matrix.length := by rwa [List.length_map] at inMatrix
  rw [List.getElem_map, List.getElem_map, List.getElem_range, fitted_eq_map]
  simp only [entry, List.getElem?_eq_getElem inside, Option.bind_some]

/-- The second pass takes its shape from the first, whose rows are as long as the matrix. -/
theorem transpose_transposedRows {matrix : List Value} (columns : 0 < columnCount matrix) :
    transpose [.list (transposedRows matrix)] =
      .list (rectangle matrix.length (columnCount matrix) (entry matrix)) := by
  rw [transpose_eq (transposedRows_ne_nil columns)]
  conv => lhs; rw [transposedRows, columnCount_transposedRows columns, length_transposedRows]
  congr 1
  exact rectangle_congr fun i inRows j inColumns => entry_transposedRows inRows inColumns

/-- Transposing twice gives every row the width of the first one, which must be a list of at
least one cell. Longer rows are cut, shorter ones are filled up with zeros, and a row that is
no list is all zeros. So a matrix comes back as it was exactly if all of its rows are lists of
one length. -/
theorem transpose_transpose {matrix first : List Value}
    (leading : matrix.head? = some (.list first)) (filled : first ≠ []) :
    transpose [transpose [.list matrix]] =
        .list (matrix.map fun r => .list (fitted first.length (row r))) ∧
      (transpose [transpose [.list matrix]] = .list matrix ↔
        ∀ r ∈ matrix, ∃ cells, r = .list cells ∧ cells.length = first.length) := by
  have width : columnCount matrix = first.length := by
    rw [columnCount, leading]
    rfl
  have nonempty : matrix ≠ [] := by
    rintro rfl
    cases leading
  have columns : 0 < columnCount matrix := width ▸ List.length_pos_iff.mpr filled
  have twice : transpose [transpose [.list matrix]] =
      .list (matrix.map fun r => .list (fitted first.length (row r))) := by
    rw [transpose_eq nonempty, transpose_transposedRows columns, rectangle_entry, width]
  refine ⟨twice, ?_⟩
  rw [twice, Value.list.injEq]
  conv => lhs; rhs; rw [← List.map_id matrix]
  rw [List.map_inj_left]
  refine forall₂_congr fun r _ => ?_
  constructor
  · intro unchanged
    exact ⟨_, unchanged.symm, length_fitted _ _⟩
  · rintro ⟨cells, rfl, full⟩
    exact congrArg Value.list (fitted_eq_self_iff.mpr full)

/-- Rows that are too short and too long, and one that is no list. -/
def raggedMatrix : List Value :=
  [.list [.number 1, .text "a"], .list [.number 3], .text "no row",
    .list [.number 4, .null, .number 6]]

theorem transpose_transpose_raggedMatrix :
    transpose [transpose [.list raggedMatrix]] =
        .list [.list [.number 1, .text "a"], .list [.number 3, .number 0],
          .list [.number 0, .number 0], .list [.number 4, .null]] ∧
      transpose [transpose [.list raggedMatrix]] ≠ .list raggedMatrix := by
  obtain ⟨twice, unchanged⟩ :=
    @transpose_transpose raggedMatrix [.number 1, .text "a"] rfl nofun
  refine ⟨twice, fun same => ?_⟩
  obtain ⟨cells, isList, -⟩ := unchanged.mp same (.text "no row") (by simp [raggedMatrix])
  cases isList

end GlyphScript.Builtin
