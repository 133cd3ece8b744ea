import ShaderUniforms.Native.Function

/-!
# GLSL types

The types that a uniform can have here: five scalars, fifteen vectors and
eighteen matrices.  Each type is uploaded by one native function; booleans and
vectors of booleans share theirs with the integers.
-/

namespace ShaderUniforms

inductive GlslType where
  | scalar (s : Scalar)
  | vector (s : Scalar) (n : Dim)
  | matrix (p : Precision) (c r : Dim)
  deriving DecidableEq

namespace GlslType

/-- The letter before `mat` in the name of a matrix type. -/
def matrixLetter : Precision -> String
  | .single => ""
  | .double => "d"

def name : GlslType -> String
  | scalar s => s.name
  | vector s n => s.vectorLetter ++ "vec" ++ n.digit
  | matrix p c r => matrixLetter p ++ "mat" ++ Dim.shape c r

def all : List GlslType :=
  Scalar.all.map scalar
    ++ Scalar.all.flatMap (fun s => Dim.all.map (vector s))
    ++ Precision.all.flatMap (fun p =>
        Dim.all.flatMap (fun c => Dim.all.map (matrix p c)))

theorem mem_all (t : GlslType) : t ∈ all := by
  cases t with
  | scalar s => simp [all, Scalar.mem_all]
  | vector s n => simp [all, Scalar.mem_all, Dim.mem_all]
  | matrix p c r => simp [all, Precision.mem_all, Dim.mem_all]

def ofName? (name : String) : Option GlslType :=
  all.find? fun t => t.name == name

def function : GlslType -> UniformFunction
  | scalar s => .scalar s.element
  | vector s n => .vector s.element n
  | matrix p c r => .matrix p c r

/-- The type of the same shape in which integers stand for booleans. -/
def withoutBools : GlslType -> GlslType
  | scalar s => scalar (.num s.element)
  | vector s n => vector (.num s.element) n
  | matrix p c r => matrix p c r

/-- Two types share a function just when they agree up to booleans. -/
theorem function_eq_iff {s t : GlslType} :
    s.function = t.function <-> s.withoutBools = t.withoutBools := by
  cases s <;> cases t <;> simp [function, withoutBools]

end GlslType

end ShaderUniforms
