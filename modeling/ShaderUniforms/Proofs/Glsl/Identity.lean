import Mathlib.Data.List.FinRange
import ShaderUniforms.Glsl.Scalar
import ShaderUniforms.Proofs.Glsl.Entries

/-!
# Identity matrices

An identity matrix has its ones where column and row are the same.  One step down
the diagonal is one column and one row further, so that in the flat layout the ones
lie one position further apart than a column is long.  They lie in the same places
if the rows are laid out one after the other, since nothing changes when columns
and rows are exchanged.
-/

namespace ShaderUniforms

/-!
## Zero and one
-/

namespace Precision

/-- The bit pattern of `0.0`. -/
def zero : (p : Precision) -> p.Val
  | single => (⟨0⟩ : Binary32)
  | double => (⟨0⟩ : Binary64)

/-- The bit pattern of `1.0`. -/
def one : (p : Precision) -> p.Val
  | single => (⟨0x3F800000⟩ : Binary32)
  | double => (⟨0x3FF0000000000000⟩ : Binary64)

theorem zero_eq (p : Precision) : (0 : p.Val) = p.zero := by
  cases p <;> rfl

theorem one_eq (p : Precision) : (1 : p.Val) = p.one := by
  cases p <;> rfl

theorem one_beq_one (p : Precision) : ((1 : p.Val) == 1) = true := by
  cases p <;> decide

theorem zero_beq_one (p : Precision) : ((0 : p.Val) == 1) = false := by
  cases p <;> decide

theorem zero_ne_one (p : Precision) : (0 : p.Val) ≠ 1 := by
  intro h
  have hbeq := p.zero_beq_one
  rw [h, one_beq_one] at hbeq
  cases hbeq

end Precision

/-!
## The diagonal
-/

variable {alpha : Type} [Zero alpha] [One alpha] {n : Nat}

namespace Entries

def identity : Entries alpha n n :=
  fun j i => if i = j then 1 else 0

theorem transpose_identity : (identity : Entries alpha n n).transpose = identity := by
  funext j i
  show (if j = i then 1 else 0 : alpha) = if i = j then 1 else 0
  exact if_congr eq_comm rfl rfl

end Entries

namespace Matrix

/-- Of all positions in the layout, `n + 1` divides those of the diagonal only. -/
theorem dvd_flatIndex_iff {i j : Nat} (hi : i < n) (hj : j < n) :
    n + 1 ∣ i * n + j <-> i = j := by
  constructor
  · intro h
    rcases h with ⟨k, hk⟩
    have hdiagonal : i * n + j = k * n + k := by
      rw [hk, Nat.mul_comm, Nat.mul_succ]
    -- A multiple of `n` or more lies past the end of the layout.
    have hlast : k < n := by
      apply Nat.lt_of_not_le
      intro hn
      have hend : i * n + j < n * n := flatIndex_lt ⟨i, hi⟩ ⟨j, hj⟩
      have hbeyond : n * n ≤ k * n := Nat.mul_le_mul_right n hn
      omega
    -- So the position is that of column `k` and row `k`.
    calc
      i = (k * n + k) / n := by rw [<- hdiagonal, flatIndex_div hj]
      _ = k := flatIndex_div hlast
      _ = (k * n + k) % n := (flatIndex_mod hlast).symm
      _ = j := by rw [<- hdiagonal, flatIndex_mod hj]
  · intro h
    rw [h, <- Nat.mul_succ]
    exact Nat.dvd_mul_left (n + 1) j

theorem identity_eq_ofEntries : (identity : Matrix alpha n n) = ofEntries Entries.identity :=
  rfl

theorem element_identity (i j : Fin n) :
    (identity : Matrix alpha n n).element i j = .ok (if i = j then 1 else 0) :=
  element_ofEntries Entries.identity i j

theorem element_identity_eq_one_iff (hne : (0 : alpha) ≠ 1) (i j : Fin n) :
    (identity : Matrix alpha n n).element i j = .ok 1 <-> i = j := by
  rw [element_identity]
  constructor
  · intro hone
    by_cases h : i = j
    · exact h
    · rw [if_neg h] at hone
      injection hone with hzero
      exact absurd hzero hne
  · intro h
    rw [if_pos h]

theorem getElem?_toList_identity {k : Nat} (hk : k < n * n) :
    (identity : Matrix alpha n n).toList[k]? = some (if n + 1 ∣ k then 1 else 0) := by
  rcases exists_flatIndex_eq hk with ⟨i, j, hi, hj, rfl⟩
  rw [getElem?_toList _ hi hj, identity_eq_ofEntries, getElem_columns_ofEntries]
  unfold Entries.identity
  simp only [dvd_flatIndex_iff hi hj, Fin.mk.injEq]

/-!
### Exchange of columns and rows
-/

theorem transpose_identity : (identity : Matrix alpha n n).transpose = identity := by
  rw [identity_eq_ofEntries, transpose_ofEntries, Entries.transpose_identity]

/-!
### Number of ones
-/

section Count

variable [BEq alpha]

/-- Each column has its one in the row of the same number. -/
theorem count_column_identity (hone : ((1 : alpha) == 1) = true)
    (hzero : ((0 : alpha) == 1) = false) (i : Fin n) :
    ((Entries.identity : Entries alpha n n).column i).toList.count 1 = 1 := by
  have hentry : forall j : Fin n, ((if i = j then 1 else 0 : alpha) == 1) = (j == i) := by
    intro j
    by_cases h : i = j
    · rw [if_pos h, hone, h, beq_self_eq_true]
    · rw [if_neg h, hzero, beq_false_of_ne (Ne.symm h)]
  unfold Entries.column
  rw [Vector.toList_ofFn, List.ofFn_eq_map, List.count, List.countP_map]
  calc
    List.countP _ (List.finRange n) = (List.finRange n).count i := by
      apply congrArg (List.countP · (List.finRange n))
      funext j
      exact hentry j
    _ = 1 := List.count_eq_one_of_mem (List.nodup_finRange n) (List.mem_finRange i)

theorem count_toList_identity (hone : ((1 : alpha) == 1) = true)
    (hzero : ((0 : alpha) == 1) = false) :
    (identity : Matrix alpha n n).toList.count 1 = n := by
  rw [identity_eq_ofEntries, toList_ofEntries]
  unfold Entries.columnMajor
  rw [List.count_flatten, List.map_ofFn]
  calc
    (List.ofFn fun i => ((Entries.identity : Entries alpha n n).column i).toList.count 1).sum
      = (List.ofFn fun _ : Fin n => 1).sum := by
        simp only [count_column_identity hone hzero]
    _ = n := by
      rw [List.ofFn_const, List.sum_replicate_nat, Nat.mul_one]

end Count

/--
An identity matrix in either precision, of any size.  Its flat layout has a one at
each multiple of `n + 1`, which makes `n` of them, and zeros everywhere else.
Exchanging columns and rows leaves it as it is, and so does laying it out and building
it again.  The elements that are one are those whose column and row are the same.
Numbers take room, so that a matrix of them which fits into memory fits into a slice.
-/
theorem identity_in_either_order (p : Precision) (n : Nat) :
    (identity : Matrix p.Val n n).toList.length = n * n ∧
      (forall k : Fin (n * n),
        (identity : Matrix p.Val n n).toList[k.val]? =
          some (if n + 1 ∣ k.val then p.one else p.zero)) ∧
      (identity : Matrix p.Val n n).toList.count p.one = n ∧
      (identity : Matrix p.Val n n).transpose = identity ∧
      ofFlat? (identity : Matrix p.Val n n).toList = some (identity : Matrix p.Val n n) ∧
      (forall i j : Fin n,
        (identity : Matrix p.Val n n).element i j = .ok p.one <-> i = j) ∧
      (n * n < lengthLimit -> exists xs : Slice p.Val,
        (identity : Matrix p.Val n n).slice = .ok xs ∧
        xs.components = (identity : Matrix p.Val n n).toList ∧
        forall o : Overflow, ofSlice o xs = .ok (some (identity : Matrix p.Val n n))) := by
  constructor
  · exact length_toList _
  constructor
  · intro k
    rw [<- p.one_eq, <- p.zero_eq]
    exact getElem?_toList_identity k.isLt
  constructor
  · rw [<- p.one_eq]
    exact count_toList_identity p.one_beq_one p.zero_beq_one
  constructor
  · exact transpose_identity
  constructor
  · exact ofFlat?_toList identity
  constructor
  · intro i j
    rw [<- p.one_eq]
    exact element_identity_eq_one_iff p.zero_ne_one i j
  · intro hlength
    refine ⟨identity.sliceOfLt hlength, identity.slice_of_lt hlength, rfl, ?_⟩
    intro o
    exact ofSlice_eq_some_iff.mpr rfl

theorem identity_in_either_order_three :
    3 * 3 < lengthLimit ∧ exists xs : Slice Binary64,
      (identity : Matrix Binary64 3 3).slice = .ok xs ∧
        ofSlice .checked xs = .ok (some (identity : Matrix Binary64 3 3)) := by
  have hlength : 3 * 3 < lengthLimit := by decide
  rcases identity_in_either_order .double 3 with ⟨_, _, _, _, _, _, hlaidOut⟩
  rcases hlaidOut hlength with ⟨xs, hslice, _, hbuilt⟩
  exact ⟨hlength, xs, hslice, hbuilt .checked⟩

example : (identity : Matrix Binary64 3 3).toList = [1, 0, 0, 0, 1, 0, 0, 0, 1] := by
  cbv

end Matrix

end ShaderUniforms
