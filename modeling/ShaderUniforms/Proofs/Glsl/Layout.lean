import ShaderUniforms.Glsl.Matrix

/-!
# The flat layout of a matrix

The component of column `i` and row `j` lies at position `i * r + j`.  This
fixes the flat list, and a list of the right length fixes the matrix.
-/

namespace ShaderUniforms

namespace Matrix

variable {alpha : Type} {c r : Nat}

theorem ext_getElem {m n : Matrix alpha c r}
    (h : forall (i j : Nat) (hi : i < c) (hj : j < r),
      m.columns[i][j] = n.columns[i][j]) :
    m = n := by
  apply Matrix.ext
  apply Vector.ext
  intro i hi
  apply Vector.ext
  intro j hj
  exact h i j hi hj

theorem flatIndex_div {i j : Nat} (hj : j < r) : (i * r + j) / r = i := by
  rw [Nat.mul_comm, Nat.mul_add_div (Nat.zero_lt_of_lt hj), Nat.div_eq_of_lt hj,
    Nat.add_zero]

theorem flatIndex_mod {i j : Nat} (hj : j < r) : (i * r + j) % r = j := by
  rw [Nat.mul_comm, Nat.mul_add_mod, Nat.mod_eq_of_lt hj]

theorem getElem?_toList (m : Matrix alpha c r) {i j : Nat} (hi : i < c) (hj : j < r) :
    m.toList[i * r + j]? = some m.columns[i][j] := by
  have hindex : i * r + j < c * r := flatIndex_lt ⟨i, hi⟩ ⟨j, hj⟩
  have hlength : i * r + j < m.toList.length := by
    rw [length_toList]
    exact hindex
  rw [List.getElem?_eq_getElem hlength]
  -- Division by the number of rows takes the position apart again.
  simp [toList, flatten, Vector.getElem_toList, Vector.getElem_flatten,
    flatIndex_div hj, flatIndex_mod hj]

theorem ofFlat?_eq_some {xs : List alpha} {m : Matrix alpha c r}
    (hlength : xs.length = c * r)
    (hxs : forall (i j : Nat) (hi : i < c) (hj : j < r),
      xs[i * r + j]? = some m.columns[i][j]) :
    ofFlat? xs = some m := by
  unfold ofFlat?
  rw [dif_pos hlength]
  congr 1
  apply ext_getElem
  intro i j hi hj
  have hindex : i * r + j < xs.length := by
    rw [hlength]
    exact flatIndex_lt ⟨i, hi⟩ ⟨j, hj⟩
  have hget : some (xs.get ⟨i * r + j, hindex⟩) = some m.columns[i][j] := by
    rw [<- hxs i j hi hj]
    exact (List.getElem?_eq_getElem hindex).symm
  rw [getElem_columns_ofEntries]
  exact Option.some.inj hget

end Matrix

end ShaderUniforms
