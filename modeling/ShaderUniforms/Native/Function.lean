import ShaderUniforms.Glsl.Scalar
import ShaderUniforms.Program.Location

/-!
# Native functions

The graphics library offers one upload function for each shape and kind of
number: four for scalars, twelve for vectors and eighteen for matrices.  Its
naming is regular, so a function is described by its shape and kind, and both
of its names are computed: the symbol under which a driver exports it, and the
name under which a surface offers it.

Nineteen of the upload functions came late to the library: all that take double
precision, and those for matrices of single precision that are not square.  A
driver may lack them.
-/

namespace ShaderUniforms

/-- A native upload function, by the shape and the numbers that it takes. -/
inductive UniformFunction where
  | scalar (e : Element)
  | vector (e : Element) (n : Dim)
  | matrix (p : Precision) (c r : Dim)
  deriving DecidableEq

namespace UniformFunction

def element : UniformFunction -> Element
  | scalar e => e
  | vector e _ => e
  | matrix p _ _ => p.element

/-- How many numbers make up one item. -/
def stride : UniformFunction -> Nat
  | scalar _ => 1
  | vector _ n => n.size
  | matrix _ c r => c.size * r.size

theorem stride_pos (f : UniformFunction) : 0 < f.stride := by
  cases f with
  | scalar e => exact Nat.one_pos
  | vector e n => exact n.size_pos
  | matrix p c r => exact Nat.mul_pos c.size_pos r.size_pos

/-!
## Names
-/

/-- The symbol under which a driver exports the function. -/
def symbol : UniformFunction -> String
  | scalar e => "glUniform1" ++ e.letter
  | vector e n => "glUniform" ++ n.digit ++ e.letter ++ "v"
  | matrix p c r => "glUniformMatrix" ++ Dim.shape c r ++ p.element.letter ++ "v"

/-- The name under which a surface offers the function. -/
def name : UniformFunction -> String
  | scalar e => "uniform_1_" ++ e.tag
  | vector e n => "uniform_" ++ n.digit ++ "_" ++ e.tag ++ "_slice"
  | matrix p c r => "uniform_matrix_" ++ Dim.shape c r ++ "_" ++ p.element.tag ++ "_slice"

def all : List UniformFunction :=
  Element.all.map scalar
    ++ Element.all.flatMap (fun e => Dim.all.map (vector e))
    ++ Precision.all.flatMap (fun p =>
        Dim.all.flatMap (fun c => Dim.all.map (matrix p c)))

theorem mem_all (f : UniformFunction) : f ∈ all := by
  cases f with
  | scalar e => simp [all, Element.mem_all]
  | vector e n => simp [all, Element.mem_all, Dim.mem_all]
  | matrix p c r => simp [all, Precision.mem_all, Dim.mem_all]

def ofName? (name : String) : Option UniformFunction :=
  all.find? fun f => f.name == name

theorem ofName?_name (f : UniformFunction) : ofName? f.name = some f := by
  cases f with
  | scalar e => cases e <;> rfl
  | vector e n => cases e <;> cases n <;> rfl
  | matrix p c r => cases p <;> cases c <;> cases r <;> rfl

/-!
## Functions a driver may lack
-/

def isExtended : UniformFunction -> Bool
  | scalar e => e == .double
  | vector e _ => e == .double
  | matrix p c r => p == .double || c != r

/-- The functions a driver may lack, in the order in which they are looked up. -/
def extended : List UniformFunction :=
  [scalar .double,
    vector .double .two,
    vector .double .three,
    vector .double .four,
    matrix .single .two .three,
    matrix .single .two .four,
    matrix .single .three .two,
    matrix .single .three .four,
    matrix .single .four .two,
    matrix .single .four .three,
    matrix .double .two .two,
    matrix .double .three .three,
    matrix .double .four .four,
    matrix .double .two .three,
    matrix .double .two .four,
    matrix .double .three .two,
    matrix .double .three .four,
    matrix .double .four .two,
    matrix .double .four .three]

/-- The functions that double precision needs. -/
def doublePrecision : List UniformFunction :=
  [scalar .double,
    vector .double .two,
    vector .double .three,
    vector .double .four,
    matrix .double .two .two,
    matrix .double .three .three,
    matrix .double .four .four,
    matrix .double .two .three,
    matrix .double .two .four,
    matrix .double .three .two,
    matrix .double .three .four,
    matrix .double .four .two,
    matrix .double .four .three]

theorem mem_extended_iff {f : UniformFunction} :
    f ∈ extended <-> f.isExtended = true := by
  cases f with
  | scalar e => cases e <;> decide
  | vector e n => cases e <;> cases n <;> decide
  | matrix p c r => cases p <;> cases c <;> cases r <;> decide

end UniformFunction

/-!
## All functions called
-/

inductive NativeFunction where
  | uniform (f : UniformFunction)
  | bindTexture
  | useProgram
  | getLocation (k : Variable)
  deriving DecidableEq

namespace NativeFunction

def symbol : NativeFunction -> String
  | uniform f => f.symbol
  | bindTexture => "glBindTexture"
  | useProgram => "glUseProgram"
  | getLocation .uniform => "glGetUniformLocation"
  | getLocation .attribute => "glGetAttribLocation"

def all : List NativeFunction :=
  UniformFunction.all.map uniform
    ++ [bindTexture, useProgram, getLocation .uniform, getLocation .attribute]

theorem mem_all (f : NativeFunction) : f ∈ all := by
  cases f with
  | uniform f => simp [all, UniformFunction.mem_all]
  | bindTexture => simp [all]
  | useProgram => simp [all]
  | getLocation k => cases k <;> simp [all]

end NativeFunction

end ShaderUniforms
