import ShaderUniforms.Native.Call

/-!
# Counts below the word limit

A list is short enough if its length is a non-negative signed word.  For such
lists the two ways to find a count agree: both count the whole items, and the
numbers read are those items, without a remainder.
-/

namespace ShaderUniforms

/-!
## Counting rules
-/

namespace CountRule

theorem Exact.count_one {rule : CountRule} (hrule : rule.Exact) {stride : Nat}
    (hpos : 0 < stride) (hlimit : stride < wordLimit) : rule stride stride = 1 := by
  rw [hrule hlimit hlimit, Nat.div_self hpos]
  rfl

end CountRule

theorem covered_ofNat {alpha : Type} {count : Nat} (hcount : count < wordLimit)
    (stride : Nat) (xs : List alpha) :
    covered (Int32.ofNat count) stride xs = xs.take (count * stride) := by
  unfold covered
  rw [Int32.toNatClampNeg_ofNat_of_lt hcount]

/-- The numbers read are the whole items, and the rest of the list is not read. -/
theorem CountRule.Exact.covered_eq {rule : CountRule} (hrule : rule.Exact)
    {alpha : Type} {xs : List alpha} {stride : Nat} (hlength : xs.length < wordLimit)
    (hstride : stride < wordLimit) :
    covered (rule xs.length stride) stride xs =
      xs.take (xs.length / stride * stride) := by
  have hcount : xs.length / stride < wordLimit :=
    Nat.lt_of_le_of_lt (Nat.div_le_self xs.length stride) hlength
  rw [hrule hlength hstride]
  exact covered_ofNat hcount stride xs

theorem covered_one {alpha : Type} {xs : List alpha} {stride : Nat}
    (hxs : xs.length = stride) : covered 1 stride xs = xs := by
  have hone : (1 : Int32) = Int32.ofNat 1 := rfl
  rw [hone, covered_ofNat (by decide : 1 < wordLimit), Nat.one_mul, <- hxs]
  exact List.take_length

/-!
## Uploads
-/

theorem Dim.size_le_four (n : Dim) : n.size ≤ 4 := by
  cases n <;> decide

theorem UniformFunction.stride_lt_wordLimit (f : UniformFunction) :
    f.stride < wordLimit := by
  have hbound : f.stride ≤ 4 * 4 := by
    cases f with
    | scalar e => exact (by decide : 1 ≤ 4 * 4)
    | vector e n => exact Nat.le_trans n.size_le_four (by decide)
    | matrix p c r => exact Nat.mul_le_mul c.size_le_four r.size_le_four
  exact Nat.lt_of_le_of_lt hbound (by decide)

namespace Upload

/-- The numbers of the upload can be counted in a signed word. -/
def Fits (u : Upload) : Prop :=
  u.components.values.length < wordLimit

instance (u : Upload) : Decidable u.Fits :=
  inferInstanceAs (Decidable (_ < _))

end Upload

theorem UniformValue.length_toUpload (v : UniformValue) :
    v.toUpload.components.values.length = v.type.function.stride := by
  cases v with
  | scalar s x => rfl
  | vector s n v => exact Vector.length_toList
  | matrix p c r m => exact m.length_toList

theorem UniformValue.toUpload_fits (v : UniformValue) : v.toUpload.Fits := by
  unfold Upload.Fits
  rw [v.length_toUpload]
  exact v.type.function.stride_lt_wordLimit

end ShaderUniforms
