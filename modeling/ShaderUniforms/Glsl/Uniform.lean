import ShaderUniforms.Glsl.Matrix
import ShaderUniforms.Glsl.Type

/-!
# Uniform values

A uniform value is a scalar, a vector or a matrix of one of the GLSL types.
Values are compared as numbers, component by component, so a value with a NaN
in it is not equal to itself, and values of different types never are.
-/

namespace ShaderUniforms

inductive UniformValue where
  | scalar (s : Scalar) (x : s.Val)
  | vector (s : Scalar) (n : Dim) (v : Vector s.Val n.size)
  | matrix (p : Precision) (c r : Dim) (m : Matrix p.Val c.size r.size)

namespace UniformValue

def type : UniformValue -> GlslType
  | scalar s _ => .scalar s
  | vector s n _ => .vector s n
  | matrix p c r _ => .matrix p c r

/-!
## Equality
-/

protected def beq : UniformValue -> UniformValue -> Bool
  | scalar s x, scalar t y =>
      if h : s = t then h ▸ x == y else false
  | vector s m v, vector t n w =>
      if h : s = t ∧ m = n then h.1 ▸ h.2 ▸ v == w else false
  | matrix p c r m, matrix q d s n =>
      if h : p = q ∧ c = d ∧ r = s then h.1 ▸ h.2.1 ▸ h.2.2 ▸ m == n else false
  | _, _ => false

instance : BEq UniformValue where
  beq := UniformValue.beq

theorem scalar_beq_scalar (s : Scalar) (x y : s.Val) :
    (scalar s x == scalar s y) = (x == y) := by
  show UniformValue.beq _ _ = _
  simp [UniformValue.beq]

theorem vector_beq_vector (s : Scalar) (n : Dim) (v w : Vector s.Val n.size) :
    (vector s n v == vector s n w) = (v == w) := by
  show UniformValue.beq _ _ = _
  simp [UniformValue.beq]

theorem matrix_beq_matrix (p : Precision) (c r : Dim)
    (m n : Matrix p.Val c.size r.size) :
    (matrix p c r m == matrix p c r n) = (m == n) := by
  show UniformValue.beq _ _ = _
  simp [UniformValue.beq]

theorem type_eq_of_beq {a b : UniformValue} (h : (a == b) = true) : a.type = b.type := by
  change UniformValue.beq a b = true at h
  cases a <;> cases b <;> simp [UniformValue.beq] at h
  all_goals
    obtain ⟨heq, -⟩ := h
    simp [type, heq]

/-!
## Booleans as integers
-/

/-- The same value with each boolean replaced by the integer `0` or `1`. -/
def withoutBools : UniformValue -> UniformValue
  | scalar s x => scalar (.num s.element) (s.encode x)
  | vector s n v => vector (.num s.element) n (v.map s.encode)
  | matrix p c r m => matrix p c r m

theorem type_withoutBools (v : UniformValue) :
    v.withoutBools.type = v.type.withoutBools := by
  cases v <;> rfl

/-!
## Text
-/

/-- The capital letters that open the name of a value. -/
def capital : Scalar -> String
  | .num .float => ""
  | .num .double => "D"
  | .num .uint => "U"
  | .num .int => "I"
  | .bool => "B"

/-- The text of a value whose components are exact, that is, not floating point. -/
def exactText? : UniformValue -> Option String
  | scalar s x =>
      (s.exactText? x).map fun t => s.name.capitalize ++ "(" ++ t ++ ")"
  | vector s n v =>
      (v.toList.mapM s.exactText?).map fun ts =>
        capital s ++ "Vec" ++ n.digit ++ "(Vector([" ++ ", ".intercalate ts ++ "]))"
  | matrix _ _ _ _ => none

end UniformValue

end ShaderUniforms
