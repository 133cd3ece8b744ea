import ShaderUniforms.Binary

/-!
# Component kinds

GLSL values are built from five kinds of component: four numeric ones, for
which native upload functions exist, and the booleans, which travel as
integers.  Matrices have floating point components only, in either precision,
and both vectors and matrices have two, three or four components a side.
-/

namespace ShaderUniforms

/-!
## Dimensions
-/

/-- The length of a vector, or of one side of a matrix. -/
inductive Dim where
  | two
  | three
  | four
  deriving DecidableEq

namespace Dim

def size : Dim -> Nat
  | two => 2
  | three => 3
  | four => 4

def all : List Dim :=
  [two, three, four]

def digit (n : Dim) : String :=
  toString n.size

theorem mem_all (n : Dim) : n ∈ all := by
  cases n <;> decide

theorem size_pos (n : Dim) : 0 < n.size := by
  cases n <;> decide

/-- A pair of sides as text: one digit for a square, otherwise `2x3`. -/
def shape (columns rows : Dim) : String :=
  if columns = rows then columns.digit
  else columns.digit ++ "x" ++ rows.digit

end Dim

/-!
## Numeric components
-/

/-- The kinds of number that native upload functions take. -/
inductive Element where
  | float
  | double
  | uint
  | int
  deriving DecidableEq

namespace Element

abbrev Val : Element -> Type
  | float => Binary32
  | double => Binary64
  | uint => UInt32
  | int => Int32

instance instBEqVal : (e : Element) -> BEq e.Val
  | float => inferInstanceAs (BEq Binary32)
  | double => inferInstanceAs (BEq Binary64)
  | uint => inferInstanceAs (BEq UInt32)
  | int => inferInstanceAs (BEq Int32)

def all : List Element :=
  [float, double, uint, int]

theorem mem_all (e : Element) : e ∈ all := by
  cases e <;> decide

/-- A letter for the kind and the width in bits. -/
def tag : Element -> String
  | float => "f32"
  | double => "f64"
  | uint => "u32"
  | int => "i32"

/-- The letters that stand for the kind in the name of a native function. -/
def letter : Element -> String
  | float => "f"
  | double => "d"
  | uint => "ui"
  | int => "i"

end Element

/-!
## Matrix components
-/

inductive Precision where
  | single
  | double
  deriving DecidableEq

namespace Precision

def element : Precision -> Element
  | single => .float
  | double => .double

def all : List Precision :=
  [single, double]

theorem mem_all (p : Precision) : p ∈ all := by
  cases p <;> decide

abbrev Val (p : Precision) : Type :=
  p.element.Val

instance instOneVal : (p : Precision) -> One p.Val
  | single => inferInstanceAs (One Binary32)
  | double => inferInstanceAs (One Binary64)

instance instZeroVal : (p : Precision) -> Zero p.Val
  | single => inferInstanceAs (Zero Binary32)
  | double => inferInstanceAs (Zero Binary64)

end Precision

/-!
## All components
-/

/-- The kinds of component of a GLSL scalar or vector. -/
inductive Scalar where
  | num (e : Element)
  | bool
  deriving DecidableEq

namespace Scalar

abbrev Val : Scalar -> Type
  | num e => e.Val
  | bool => Bool

instance instBEqVal : (s : Scalar) -> BEq s.Val
  | num e => Element.instBEqVal e
  | bool => inferInstanceAs (BEq Bool)

def all : List Scalar :=
  Element.all.map num ++ [bool]

theorem mem_all (s : Scalar) : s ∈ all := by
  cases s with
  | num e => simp [all, Element.mem_all]
  | bool => simp [all]

def element : Scalar -> Element
  | num e => e
  | bool => .int

/-- The number a component is uploaded as: a boolean becomes `0` or `1`. -/
def encode : (s : Scalar) -> s.Val -> s.element.Val
  | num _, x => x
  | bool, b => (if b then 1 else 0 : Int32)

/-- The letters before `vec` in the name of a vector type. -/
def vectorLetter : Scalar -> String
  | num .float => ""
  | num .double => "d"
  | num .uint => "u"
  | num .int => "i"
  | bool => "b"

def name : Scalar -> String
  | num .float => "float"
  | num .double => "double"
  | num .uint => "uint"
  | num .int => "int"
  | bool => "bool"

/-- The text of a component whose kind is exact, that is, not floating point. -/
def exactText? : (s : Scalar) -> s.Val -> Option String
  | num .uint, x => some (toString x.toNat)
  | num .int, x => some (toString x.toInt)
  | bool, b => some (if b then "true" else "false")
  | num .float, _ => none
  | num .double, _ => none

end Scalar

end ShaderUniforms
