import ShaderUniforms.Glsl.Uniform
import ShaderUniforms.Proofs.Glsl.Layout

/-!
# Equality component by component

Vectors and matrices are equal as numbers if their components are, position by
position.  For a matrix it makes no difference whether the positions are taken
column by column or in the flat layout.  Nothing is assumed of the equality of
components, which need not be reflexive.
-/

namespace ShaderUniforms

variable {alpha : Type} [BEq alpha] {n c r : Nat}

theorem vector_beq_iff {v w : Vector alpha n} :
    (v == w) = true <-> forall (i : Nat) (hi : i < n), (v[i] == w[i]) = true := by
  rw [Vector.beq_eq_decide]
  exact decide_eq_true_iff

namespace Matrix

theorem beq_iff {m k : Matrix alpha c r} :
    (m == k) = true <->
      forall (i j : Nat) (hi : i < c) (hj : j < r),
        (m.columns[i][j] == k.columns[i][j]) = true := by
  rw [beq_eq, vector_beq_iff]
  constructor
  · intro h i j hi hj
    exact vector_beq_iff.mp (h i hi) j hj
  · intro h i hi
    apply vector_beq_iff.mpr
    intro j hj
    exact h i j hi hj

theorem flatten_beq_iff {m k : Matrix alpha c r} :
    (m.flatten == k.flatten) = true <-> (m == k) = true := by
  rw [vector_beq_iff, beq_iff]
  constructor
  · intro h i j hi hj
    have hindex : i * r + j < c * r := flatIndex_lt ⟨i, hi⟩ ⟨j, hj⟩
    have hflat := h (i * r + j) hindex
    simp only [flatten, Vector.getElem_flatten, flatIndex_div hj, flatIndex_mod hj] at hflat
    exact hflat
  · intro h i hi
    simp only [flatten, Vector.getElem_flatten]
    exact h (i / r) (i % r) _ _

theorem toList_beq_toList (m k : Matrix alpha c r) :
    (m.toList == k.toList) = (m == k) := by
  unfold toList
  rw [Vector.toList_beq_toList]
  apply Bool.eq_iff_iff.mpr
  exact flatten_beq_iff

end Matrix

/-!
## Uniform values of one type
-/

namespace UniformValue

/-- Both values are scalars, vectors or matrices, of the same kind and size. -/
inductive SameType : UniformValue -> UniformValue -> Prop where
  | scalar (s : Scalar) (x y : s.Val) : SameType (.scalar s x) (.scalar s y)
  | vector (s : Scalar) (n : Dim) (v w : Vector s.Val n.size) :
      SameType (.vector s n v) (.vector s n w)
  | matrix (p : Precision) (c r : Dim) (m k : Matrix p.Val c.size r.size) :
      SameType (.matrix p c r m) (.matrix p c r k)

theorem sameType_of_type_eq {a b : UniformValue} (htype : a.type = b.type) : SameType a b := by
  cases a with
  | scalar s x =>
      cases b with
      | scalar t y =>
          cases htype
          exact SameType.scalar s x y
      | vector t n w => cases htype
      | matrix p c r k => cases htype
  | vector s n v =>
      cases b with
      | scalar t y => cases htype
      | vector t m w =>
          cases htype
          exact SameType.vector s n v w
      | matrix p c r k => cases htype
  | matrix p c r m =>
      cases b with
      | scalar t y => cases htype
      | vector t n w => cases htype
      | matrix q d l k =>
          cases htype
          exact SameType.matrix p c r m k

end UniformValue

/-!
## Components of uniform values
-/

namespace Scalar

/-- Numbers that stand for components are equal just when the components are. -/
theorem encode_beq_encode (s : Scalar) (x y : s.Val) :
    (s.encode x == s.encode y) = (x == y) := by
  cases s with
  | num e => rfl
  | bool => cases x <;> cases y <;> rfl

theorem map_encode_beq_map_encode (s : Scalar) {n : Nat} (v w : Vector s.Val n) :
    (v.map s.encode == w.map s.encode) = (v == w) := by
  apply Bool.eq_iff_iff.mpr
  rw [vector_beq_iff, vector_beq_iff]
  constructor
  · intro h i hi
    have hencoded := h i hi
    rw [Vector.getElem_map, Vector.getElem_map, encode_beq_encode] at hencoded
    exact hencoded
  · intro h i hi
    rw [Vector.getElem_map, Vector.getElem_map, encode_beq_encode]
    exact h i hi

end Scalar

end ShaderUniforms
