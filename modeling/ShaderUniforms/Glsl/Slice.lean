/-!
# Vectors and slices

A vector is a list of components whose length is part of its type.  A slice is a
list that is held in memory, so that its length is a word.  Single components of
both are read through a range check.
-/

namespace ShaderUniforms

variable {alpha : Type} {n : Nat}

/-!
## Range checks
-/

/-- An index that is not below the length it was checked against. -/
structure OutOfRange where
  length : Nat
  index : Nat
  deriving DecidableEq

def OutOfRange.message (e : OutOfRange) : String :=
  s!"index out of bounds: the len is {e.length} but the index is {e.index}"

def component (v : Vector alpha n) (i : Nat) : Except OutOfRange alpha :=
  if h : i < n then .ok v[i] else .error ⟨n, i⟩

theorem component_of_lt (v : Vector alpha n) {i : Nat} (h : i < n) :
    component v i = .ok v[i] := by
  simp [component, h]

theorem component_of_le (v : Vector alpha n) {i : Nat} (h : n ≤ i) :
    component v i = .error ⟨n, i⟩ := by
  simp [component, Nat.not_lt.mpr h]

/-!
## Slices

Lengths and positions are words of sixty-four bits.  A program is built either to
stop where a sum or a product is no such word, or to go on with its remainder.
-/

/-- The first number that is no length. -/
def lengthLimit : Nat :=
  18446744073709551616

/-- What becomes of a sum or a product that is no length. -/
inductive Overflow where
  | checked
  | wrapping
  deriving DecidableEq

/-- What stops a matrix from being laid out or from being built. -/
inductive LayoutFault where
  | sliceLength
  | product
  | sum
  | outOfRange (e : OutOfRange)
  deriving DecidableEq

def LayoutFault.message : LayoutFault -> String
  | sliceLength => "slice len overflow"
  | product => "attempt to multiply with overflow"
  | sum => "attempt to add with overflow"
  | outOfRange e => e.message

namespace Overflow

/-- The number as a length. Where it is none, `fault` is what a check reports. -/
def reduce (o : Overflow) (fault : LayoutFault) (k : Nat) : Except LayoutFault Nat :=
  if k < lengthLimit then .ok k
  else match o with
    | checked => .error fault
    | wrapping => .ok (k % lengthLimit)

def product (o : Overflow) (k l : Nat) : Except LayoutFault Nat :=
  o.reduce .product (k * l)

def sum (o : Overflow) (k l : Nat) : Except LayoutFault Nat :=
  o.reduce .sum (k + l)

theorem reduce_of_lt (o : Overflow) (fault : LayoutFault) {k : Nat} (h : k < lengthLimit) :
    o.reduce fault k = .ok k :=
  if_pos h

end Overflow

/-- A list that is held in memory, and so has a length. -/
@[ext] structure Slice (alpha : Type) where
  components : List alpha
  length_lt : components.length < lengthLimit

namespace Slice

def read (xs : Slice alpha) (k : Nat) : Except LayoutFault alpha :=
  (component xs.components.toArray.toVector k).mapError .outOfRange

/-- The component of column `i` and row `j`, where each column has `r` rows. -/
def readElement (o : Overflow) (xs : Slice alpha) (r i j : Nat) : Except LayoutFault alpha := do
  xs.read (<- o.sum (<- o.product i r) j)

theorem read_of_lt (xs : Slice alpha) {k : Nat} (hk : k < xs.components.length) :
    xs.read k = .ok xs.components[k] := by
  unfold read
  rw [component_of_lt xs.components.toArray.toVector hk]
  rfl

theorem read_of_le (xs : Slice alpha) {k : Nat} (hk : xs.components.length ≤ k) :
    xs.read k = .error (.outOfRange ⟨xs.components.length, k⟩) := by
  unfold read
  rw [component_of_le xs.components.toArray.toVector hk]
  rfl

/-- No word is exceeded on the way to a position that is one. -/
theorem readElement_of_lt (o : Overflow) (xs : Slice alpha) {r i j : Nat}
    (hposition : i * r + j < lengthLimit) :
    xs.readElement o r i j = xs.read (i * r + j) := by
  have hcolumn : i * r < lengthLimit := Nat.lt_of_le_of_lt (Nat.le_add_right _ j) hposition
  unfold readElement Overflow.product Overflow.sum
  rw [o.reduce_of_lt .product hcolumn]
  show (do xs.read (<- o.reduce .sum (i * r + j))) = _
  rw [o.reduce_of_lt .sum hposition]
  rfl

end Slice

end ShaderUniforms
