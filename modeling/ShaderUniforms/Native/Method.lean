import ShaderUniforms.Native.Function

/-!
# Methods

A surface has a method for each upload function.  This is the list of them, written
out: the name of the method, the symbol of the function that it goes to, what the
length of a list is divided by to count its items, and whether a driver may lack the
function.

Elsewhere all of this is computed from the shape and the kind of number.  It is shown
that the list holds what is computed, and nothing else.
-/

namespace ShaderUniforms

structure Method where
  function : UniformFunction
  name : String
  symbol : String
  divisor : Nat
  optional : Bool
  deriving DecidableEq

def UniformFunction.method (f : UniformFunction) : Method where
  function := f
  name := f.name
  symbol := f.symbol
  divisor := f.stride
  optional := f.isExtended

namespace Method

def all : List Method :=
  [⟨.scalar .float, "uniform_1_f32", "glUniform1f", 1, false⟩,
    ⟨.scalar .double, "uniform_1_f64", "glUniform1d", 1, true⟩,
    ⟨.scalar .uint, "uniform_1_u32", "glUniform1ui", 1, false⟩,
    ⟨.scalar .int, "uniform_1_i32", "glUniform1i", 1, false⟩,
    ⟨.vector .float .two, "uniform_2_f32_slice", "glUniform2fv", 2, false⟩,
    ⟨.vector .float .three, "uniform_3_f32_slice", "glUniform3fv", 3, false⟩,
    ⟨.vector .float .four, "uniform_4_f32_slice", "glUniform4fv", 4, false⟩,
    ⟨.vector .double .two, "uniform_2_f64_slice", "glUniform2dv", 2, true⟩,
    ⟨.vector .double .three, "uniform_3_f64_slice", "glUniform3dv", 3, true⟩,
    ⟨.vector .double .four, "uniform_4_f64_slice", "glUniform4dv", 4, true⟩,
    ⟨.vector .uint .two, "uniform_2_u32_slice", "glUniform2uiv", 2, false⟩,
    ⟨.vector .uint .three, "uniform_3_u32_slice", "glUniform3uiv", 3, false⟩,
    ⟨.vector .uint .four, "uniform_4_u32_slice", "glUniform4uiv", 4, false⟩,
    ⟨.vector .int .two, "uniform_2_i32_slice", "glUniform2iv", 2, false⟩,
    ⟨.vector .int .three, "uniform_3_i32_slice", "glUniform3iv", 3, false⟩,
    ⟨.vector .int .four, "uniform_4_i32_slice", "glUniform4iv", 4, false⟩,
    ⟨.matrix .single .two .two, "uniform_matrix_2_f32_slice", "glUniformMatrix2fv", 4, false⟩,
    ⟨.matrix .single .three .three, "uniform_matrix_3_f32_slice", "glUniformMatrix3fv", 9, false⟩,
    ⟨.matrix .single .four .four, "uniform_matrix_4_f32_slice", "glUniformMatrix4fv", 16, false⟩,
    ⟨.matrix .single .two .three, "uniform_matrix_2x3_f32_slice", "glUniformMatrix2x3fv", 6, true⟩,
    ⟨.matrix .single .two .four, "uniform_matrix_2x4_f32_slice", "glUniformMatrix2x4fv", 8, true⟩,
    ⟨.matrix .single .three .two, "uniform_matrix_3x2_f32_slice", "glUniformMatrix3x2fv", 6, true⟩,
    ⟨.matrix .single .three .four, "uniform_matrix_3x4_f32_slice", "glUniformMatrix3x4fv", 12, true⟩,
    ⟨.matrix .single .four .two, "uniform_matrix_4x2_f32_slice", "glUniformMatrix4x2fv", 8, true⟩,
    ⟨.matrix .single .four .three, "uniform_matrix_4x3_f32_slice", "glUniformMatrix4x3fv", 12, true⟩,
    ⟨.matrix .double .two .two, "uniform_matrix_2_f64_slice", "glUniformMatrix2dv", 4, true⟩,
    ⟨.matrix .double .three .three, "uniform_matrix_3_f64_slice", "glUniformMatrix3dv", 9, true⟩,
    ⟨.matrix .double .four .four, "uniform_matrix_4_f64_slice", "glUniformMatrix4dv", 16, true⟩,
    ⟨.matrix .double .two .three, "uniform_matrix_2x3_f64_slice", "glUniformMatrix2x3dv", 6, true⟩,
    ⟨.matrix .double .two .four, "uniform_matrix_2x4_f64_slice", "glUniformMatrix2x4dv", 8, true⟩,
    ⟨.matrix .double .three .two, "uniform_matrix_3x2_f64_slice", "glUniformMatrix3x2dv", 6, true⟩,
    ⟨.matrix .double .three .four, "uniform_matrix_3x4_f64_slice", "glUniformMatrix3x4dv", 12, true⟩,
    ⟨.matrix .double .four .two, "uniform_matrix_4x2_f64_slice", "glUniformMatrix4x2dv", 8, true⟩,
    ⟨.matrix .double .four .three, "uniform_matrix_4x3_f64_slice", "glUniformMatrix4x3dv", 12, true⟩]

theorem method_mem_all (f : UniformFunction) : f.method ∈ all := by
  cases f with
  | scalar e => cases e <;> decide
  | vector e n => cases e <;> cases n <;> decide
  | matrix p c r => cases p <;> cases c <;> cases r <;> decide

theorem mem_all_iff {m : Method} : m ∈ all <-> m = m.function.method := by
  have hall : forall m, m ∈ all -> m = m.function.method := by
    decide
  constructor
  · exact hall m
  · intro h
    rw [h]
    exact method_mem_all m.function

end Method

end ShaderUniforms
