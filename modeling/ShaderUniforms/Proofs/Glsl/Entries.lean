import ShaderUniforms.Proofs.Glsl.Elements

/-!
# Matrices given by their entries

In mathematics an entry of a matrix is named by its row first and its column
second, and a matrix of `r` rows and `c` columns is said to be `r` by `c`.  The
matrices here turn both around.  They are still the same matrices: however the
entries are handed over, column by column, row by row or in one slice, each of them
arrives in its own row and column.
-/

namespace ShaderUniforms

variable {alpha : Type} {c r : Nat}

/-- A matrix of `r` rows and `c` columns. The row of an entry is named first. -/
abbrev Entries (alpha : Type) (r c : Nat) :=
  Fin r -> Fin c -> alpha

namespace Entries

def transpose (a : Entries alpha r c) : Entries alpha c r :=
  fun i j => a j i

def column (a : Entries alpha r c) (i : Fin c) : Vector alpha r :=
  .ofFn fun j => a j i

def row (a : Entries alpha r c) (j : Fin r) : Vector alpha c :=
  .ofFn fun i => a j i

def columns (a : Entries alpha r c) : Vector (Vector alpha r) c :=
  .ofFn a.column

def rows (a : Entries alpha r c) : Vector (Vector alpha c) r :=
  .ofFn a.row

/-- The entries in one list, column after column. -/
def columnMajor (a : Entries alpha r c) : List alpha :=
  (List.ofFn fun i => (a.column i).toList).flatten

end Entries

namespace Matrix

/-!
## The layout as a list of columns
-/

theorem toList_eq_flatten (m : Matrix alpha c r) :
    m.toList = (m.columns.toList.map Vector.toList).flatten := by
  unfold toList flatten Vector.flatten
  simp only [Vector.toList, Array.toList_flatten, Array.toList_map, List.map_map]
  rfl

theorem toList_ofEntries (a : Entries alpha r c) : (ofEntries a).toList = a.columnMajor := by
  rw [toList_eq_flatten]
  show ((Vector.ofFn a.column).toList.map Vector.toList).flatten = _
  rw [Vector.toList_ofFn, List.map_ofFn]
  rfl

/-!
## Entries and elements
-/

theorem element_ofEntries (a : Entries alpha r c) (i : Fin c) (j : Fin r) :
    (ofEntries a).element i j = .ok (a j i) := by
  rw [element_of_lt _ i.isLt j.isLt, getElem_columns_ofEntries]

theorem ofRows_rows (a : Entries alpha r c) : ofRows a.rows = ofEntries a := by
  have hentries : (fun j i => (a.rows.get j).get i) = a := by
    funext j i
    have hrow : a.rows.get j = a.row j := Vector.getElem_ofFn j.isLt
    rw [hrow]
    exact Vector.getElem_ofFn i.isLt
  unfold ofRows
  rw [hentries]

theorem transpose_ofEntries (a : Entries alpha r c) :
    (ofEntries a).transpose = ofEntries a.transpose :=
  ofRows_rows a.transpose

end Matrix

end ShaderUniforms
