import ShaderUniforms.Glsl.Slice

/-!
# Matrices

A matrix is a vector of columns, each a vector of rows, and its components lie in
memory column after column: the component of column `i` and row `j` is at position
`i * r + j`.

A single component is read through range checks.  A matrix checks its column
first and its row next, each against its own side, so that no row of one column
is mistaken for a row of the following one.

A matrix whose components take no room can have more of them than a slice can
hold.  It can still be built from its columns and read by column and row, but it
has no layout.
-/

namespace ShaderUniforms

variable {alpha : Type} {n c r : Nat}

/-- A matrix of `c` columns and `r` rows. -/
@[ext] structure Matrix (alpha : Type) (c r : Nat) where
  ofColumns ::
  columns : Vector (Vector alpha r) c

namespace Matrix

instance [BEq alpha] : BEq (Matrix alpha c r) where
  beq m n := m.columns == n.columns

theorem beq_eq [BEq alpha] (m n : Matrix alpha c r) :
    (m == n) = (m.columns == n.columns) :=
  rfl

def element (m : Matrix alpha c r) (i j : Nat) : Except OutOfRange alpha := do
  component (<- component m.columns i) j

def splat (x : alpha) : Matrix alpha c r :=
  ofColumns (.replicate c (.replicate r x))

/-- The matrix with the given entry in each row and column, the row named first. -/
def ofEntries (entry : Fin r -> Fin c -> alpha) : Matrix alpha c r :=
  ofColumns (.ofFn fun i => .ofFn fun j => entry j i)

def ofRows (rows : Vector (Vector alpha c) r) : Matrix alpha c r :=
  ofEntries fun j i => (rows.get j).get i

def transpose (m : Matrix alpha c r) : Matrix alpha r c :=
  ofRows m.columns

/-- The square matrix with ones on its diagonal and zeros elsewhere. -/
def identity [Zero alpha] [One alpha] : Matrix alpha n n :=
  ofEntries fun j i => if i = j then 1 else 0

@[simp] theorem getElem_columns_ofEntries (entry : Fin r -> Fin c -> alpha)
    {i j : Nat} (hi : i < c) (hj : j < r) :
    (ofEntries entry).columns[i][j] = entry ⟨j, hj⟩ ⟨i, hi⟩ := by
  simp [ofEntries]

/-!
## The flat layout

The layout as such is a list, however long, and every list of the right length is
the layout of a matrix.
-/

/-- The components, column after column. -/
def flatten (m : Matrix alpha c r) : Vector alpha (c * r) :=
  m.columns.flatten

def toList (m : Matrix alpha c r) : List alpha :=
  m.flatten.toList

@[simp] theorem length_toList (m : Matrix alpha c r) : m.toList.length = c * r := by
  simp [toList]

theorem flatIndex_lt (i : Fin c) (j : Fin r) : i.val * r + j.val < c * r :=
  calc
    i.val * r + j.val < i.val * r + r := Nat.add_lt_add_left j.isLt _
    _ = (i.val + 1) * r := (Nat.succ_mul i.val r).symm
    _ ≤ c * r := Nat.mul_le_mul_right r i.isLt

/-- The matrix with the given flat layout, if the list has the right length. -/
def ofFlat? (xs : List alpha) : Option (Matrix alpha c r) :=
  if h : xs.length = c * r then
    some (ofEntries fun j i => xs.get ⟨i.val * r + j.val, h ▸ flatIndex_lt i j⟩)
  else none

/-!
## The layout in memory
-/

/-- The layout as a slice, where a slice can be so long. -/
def sliceOfLt (m : Matrix alpha c r) (h : c * r < lengthLimit) : Slice alpha :=
  ⟨m.toList, m.length_toList.symm ▸ h⟩

@[simp] theorem components_sliceOfLt (m : Matrix alpha c r) (h : c * r < lengthLimit) :
    (m.sliceOfLt h).components = m.toList :=
  rfl

/-- The layout as a slice, if a slice can be so long. -/
def slice (m : Matrix alpha c r) : Except LayoutFault (Slice alpha) :=
  if h : c * r < lengthLimit then .ok (m.sliceOfLt h)
  else .error .sliceLength

/-- The matrix that is laid out in a slice, if the slice has the right length. -/
def ofSlice (o : Overflow) (xs : Slice alpha) :
    Except LayoutFault (Option (Matrix alpha c r)) := do
  if xs.components.length = (<- o.product c r) then
    let columns <- Vector.ofFnM fun i : Fin c => Vector.ofFnM fun j : Fin r =>
      xs.readElement o r i j
    pure (some (ofColumns columns))
  else pure none

end Matrix

end ShaderUniforms
