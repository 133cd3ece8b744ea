import ShaderUniforms.Proofs.Glsl.FlatLists

/-!
# Matrices and slices

In memory a layout is a slice, and positions in it are words that are checked before
they are read.  A matrix is built from a slice just when it could be built from the
list that the slice holds: where the slice has the right length, no word is exceeded
on the way to a position, and no check fails.

A matrix whose number of components is no length has no slice for a layout, and none
is built from any slice.  If the product of its sides is cut down to a word, then
there are slices that seem to have the right length, but some position lies beyond
the end of each.
-/

namespace ShaderUniforms

variable {alpha : Type} {c r : Nat}

/-!
## Vectors out of computations
-/

/-- A vector comes out of a computation only if each of its components does. -/
theorem getElem_of_ofFnM {epsilon : Type} {n : Nat} {f : Fin n -> Except epsilon alpha}
    {v : Vector alpha n} (h : Vector.ofFnM f = .ok v) (i : Fin n) : f i = .ok v[i] := by
  induction n with
  | zero => exact i.elim0
  | succ n ih =>
      rw [Vector.ofFnM_succ] at h
      cases hinit : Vector.ofFnM fun i : Fin n => f i.castSucc with
      | error e =>
          rw [hinit] at h
          cases h
      | ok init =>
          cases hlast : f (Fin.last n) with
          | error e =>
              rw [hinit, hlast] at h
              cases h
          | ok last =>
              rw [hinit, hlast] at h
              cases h
              cases i using Fin.lastCases with
              | last => simpa using hlast
              | cast i => simpa [Vector.getElem_push_lt] using ih hinit i

namespace Matrix

/-!
## Slices
-/

theorem slice_of_lt (m : Matrix alpha c r) (hlength : c * r < lengthLimit) :
    m.slice = .ok (m.sliceOfLt hlength) :=
  dif_pos hlength

/-- What a slice holds is not too long for one. -/
theorem lt_of_toList_eq {m : Matrix alpha c r} {xs : Slice alpha}
    (h : m.toList = xs.components) : c * r < lengthLimit := by
  rw [<- m.length_toList, h]
  exact xs.length_lt

theorem ofSlice_of_product {o : Overflow} (xs : Slice alpha) {k : Nat}
    (hproduct : o.product c r = .ok k) :
    (ofSlice o xs : Except LayoutFault (Option (Matrix alpha c r))) =
      if xs.components.length = k then
        (Vector.ofFnM fun i : Fin c => Vector.ofFnM fun j : Fin r =>
          xs.readElement o r i j).map fun columns => some (ofColumns columns)
      else .ok none := by
  unfold ofSlice
  rw [hproduct]
  rfl

theorem ofSlice_of_fault {o : Overflow} (xs : Slice alpha) {e : LayoutFault}
    (hproduct : o.product c r = .error e) :
    (ofSlice o xs : Except LayoutFault (Option (Matrix alpha c r))) = .error e := by
  unfold ofSlice
  rw [hproduct]
  rfl

/-- A matrix comes out only where every component has been read. -/
theorem readElement_of_ofSlice {o : Overflow} {xs : Slice alpha} {m : Matrix alpha c r}
    (h : ofSlice o xs = .ok (some m)) {i j : Nat} (hi : i < c) (hj : j < r) :
    xs.readElement o r i j = .ok m.columns[i][j] := by
  cases hproduct : o.product c r with
  | error e =>
      rw [ofSlice_of_fault xs hproduct] at h
      cases h
  | ok k =>
      rw [ofSlice_of_product xs hproduct] at h
      split at h
      · cases hcolumns : (Vector.ofFnM fun i : Fin c => Vector.ofFnM fun j : Fin r =>
            xs.readElement o r i j) with
        | error e =>
            rw [hcolumns] at h
            cases h
        | ok columns =>
            rw [hcolumns] at h
            cases h
            exact getElem_of_ofFnM (getElem_of_ofFnM hcolumns ⟨i, hi⟩) ⟨j, hj⟩
      · cases h

/-- Where the number of components is no length, some position lies beyond the slice. -/
theorem lt_of_ofSlice {o : Overflow} {xs : Slice alpha} {m : Matrix alpha c r}
    (h : ofSlice o xs = .ok (some m)) : c * r < lengthLimit := by
  apply Nat.lt_of_not_le
  intro hlimit
  have hend : xs.components.length < c * r := Nat.lt_of_lt_of_le xs.length_lt hlimit
  rcases exists_flatIndex_eq hend with ⟨i, j, hi, hj, hindex⟩
  have hread := readElement_of_ofSlice h hi hj
  have hposition : i * r + j < lengthLimit := by
    rw [hindex]
    exact xs.length_lt
  rw [xs.readElement_of_lt o hposition, xs.read_of_le (Nat.le_of_eq hindex.symm)] at hread
  cases hread

theorem ofSlice_of_lt (o : Overflow) (xs : Slice alpha) (hlength : c * r < lengthLimit) :
    (ofSlice o xs : Except LayoutFault (Option (Matrix alpha c r))) =
      .ok (ofFlat? xs.components) := by
  rw [ofSlice_of_product xs (o.reduce_of_lt .product hlength)]
  by_cases h : xs.components.length = c * r
  · have hindex : forall (i : Fin c) (j : Fin r),
        i.val * r + j.val < xs.components.length := by
      intro i j
      rw [h]
      exact flatIndex_lt i j
    have hread : forall (i : Fin c) (j : Fin r),
        xs.readElement o r i j =
          pure (xs.components.get ⟨i.val * r + j.val, hindex i j⟩) := by
      intro i j
      rw [xs.readElement_of_lt o (Nat.lt_trans (hindex i j) xs.length_lt)]
      exact xs.read_of_lt (hindex i j)
    unfold ofFlat?
    rw [if_pos h, dif_pos h]
    simp only [hread, Vector.ofFnM_pure]
    rfl
  · rw [if_neg h, ofFlat?_eq_none h]

theorem ofSlice_eq_some_iff {o : Overflow} {xs : Slice alpha} {m : Matrix alpha c r} :
    ofSlice o xs = .ok (some m) <-> m.toList = xs.components := by
  constructor
  · intro h
    rw [ofSlice_of_lt o xs (lt_of_ofSlice h)] at h
    injection h with hflat
    exact ofFlat?_eq_some_iff.mp hflat
  · intro h
    rw [ofSlice_of_lt o xs (lt_of_toList_eq h), ofFlat?_eq_some_iff.mpr h]

/-- Three columns of two letters each. -/
def letters : Matrix Char 3 2 :=
  ofColumns #v[#v['a', 'b'], #v['c', 'd'], #v['e', 'f']]

end Matrix

end ShaderUniforms
