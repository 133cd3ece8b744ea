import ShaderUniforms.Proofs.Glsl.Layout

/-!
# Matrices and flat lists

A matrix is laid out as a flat list and can be built from one.  Each undoes the
other.  A list is accepted just when it has a component for each column and row,
and the matrix built from it is then the only one with this layout.
-/

namespace ShaderUniforms

variable {alpha : Type} {c r : Nat}

namespace Matrix

/-!
## Positions
-/

/-- Every position of the layout belongs to a column and a row. -/
theorem exists_flatIndex_eq {k : Nat} (hk : k < c * r) :
    exists i j : Nat, i < c ∧ j < r ∧ i * r + j = k := by
  have hrows : 0 < r := Nat.pos_of_lt_mul_left hk
  exists k / r, k % r
  constructor
  · exact Nat.div_lt_of_lt_mul (by rwa [Nat.mul_comm])
  constructor
  · exact Nat.mod_lt k hrows
  · exact Nat.div_add_mod' k r

theorem toList_eq_of_getElem? {xs : List alpha} {m : Matrix alpha c r}
    (hlength : xs.length = c * r)
    (hxs : forall (i j : Nat) (hi : i < c) (hj : j < r),
      xs[i * r + j]? = some m.columns[i][j]) :
    m.toList = xs := by
  apply List.ext_getElem?
  intro k
  by_cases hk : k < c * r
  · rcases exists_flatIndex_eq hk with ⟨i, j, hi, hj, rfl⟩
    rw [m.getElem?_toList hi hj, hxs i j hi hj]
  · have hk : c * r ≤ k := Nat.le_of_not_lt hk
    rw [List.getElem?_eq_none (by rwa [length_toList]),
      List.getElem?_eq_none (by rwa [hlength])]

/-!
## Building and laying out
-/

theorem ofFlat?_eq_none {xs : List alpha} (hlength : xs.length ≠ c * r) :
    (ofFlat? xs : Option (Matrix alpha c r)) = none :=
  dif_neg hlength

theorem length_of_ofFlat? {xs : List alpha} {m : Matrix alpha c r}
    (h : ofFlat? xs = some m) : xs.length = c * r := by
  by_cases hlength : xs.length = c * r
  · exact hlength
  · rw [ofFlat?_eq_none hlength] at h
    cases h

theorem getElem?_of_ofFlat? {xs : List alpha} {m : Matrix alpha c r}
    (h : ofFlat? xs = some m) {i j : Nat} (hi : i < c) (hj : j < r) :
    xs[i * r + j]? = some m.columns[i][j] := by
  have hlength := length_of_ofFlat? h
  have hindex : i * r + j < xs.length := by
    rw [hlength]
    exact flatIndex_lt ⟨i, hi⟩ ⟨j, hj⟩
  unfold ofFlat? at h
  rw [dif_pos hlength] at h
  cases h
  rw [getElem_columns_ofEntries]
  exact List.getElem?_eq_getElem hindex

theorem ofFlat?_toList (m : Matrix alpha c r) : ofFlat? m.toList = some m := by
  apply ofFlat?_eq_some m.length_toList
  intro i j hi hj
  exact m.getElem?_toList hi hj

theorem ofFlat?_eq_some_iff {xs : List alpha} {m : Matrix alpha c r} :
    ofFlat? xs = some m <-> m.toList = xs := by
  constructor
  · intro h
    apply toList_eq_of_getElem? (length_of_ofFlat? h)
    intro i j hi hj
    exact getElem?_of_ofFlat? h hi hj
  · intro h
    rw [<- h]
    exact m.ofFlat?_toList

end Matrix

end ShaderUniforms
