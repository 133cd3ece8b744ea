import ShaderUniforms.Gl.Context
import ShaderUniforms.Surface.Recording

/-!
# Shaders

A shader is a program on a surface, with its own way to find its uniforms by
name.  A uniform that the program does not use is skipped and logged.
-/

namespace ShaderUniforms

structure Shader (gamma kappa : Type) where
  surface : gamma
  program : UInt32
  activate : Outcome kappa Unit
  locate : String -> Outcome kappa UniformLocation

namespace Shader

variable {gamma kappa : Type} [Surface gamma kappa]

def setUniform (s : Shader gamma kappa) (name : String) (v : UniformValue) :
    Outcome kappa Unit := do
  let l <- s.locate name
  if l.isFound then Surface.upload s.surface l v
  else .log (.inactiveUniform name s.program)

/-- The name of the uniform that holds the transformation of a model to the screen. -/
def transformName : String :=
  "MVP"

def setTransform (s : Shader gamma kappa) (m : Matrix Binary32 4 4) :
    Outcome kappa Unit :=
  s.setUniform transformName (.matrix .single .four .four m)

/-- Passes the uniforms that every frame needs: none, unless a shader has its own. -/
def passUniforms (_ : Shader gamma kappa) : Outcome kappa Unit :=
  pure ()

end Shader

/-!
## Shaders given by a table
-/

/-- A program's number, and the locations to use where the driver is not asked. -/
structure ShaderTable where
  program : UInt32 := 0
  uniforms : LocationTable := []

namespace ShaderTable

def locationOf (shader : ShaderTable) (name : String) : UniformLocation :=
  ⟨shader.uniforms.answer name⟩

/-- A shader on a context asks the driver, if it has a program to ask about. -/
def onContext (shader : ShaderTable) (context : Context) : Shader Context NativeCall where
  surface := context
  program := shader.program
  activate := context.useProgram (Program.ofId? shader.program)
  locate name :=
    match Program.ofId? shader.program with
    | some p => context.locate .uniform p name
    | none => pure (shader.locationOf name)

def onRecording (shader : ShaderTable) (surface : Recording) :
    Shader Recording RecordedCall where
  surface := surface
  program := shader.program
  activate := pure ()
  locate name := pure (shader.locationOf name)

end ShaderTable

end ShaderUniforms
