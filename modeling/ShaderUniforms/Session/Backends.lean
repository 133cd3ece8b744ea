import ShaderUniforms.Program.Shader
import ShaderUniforms.Session.Handles

/-!
# Backends

Three backends for sessions: a context with a shader, a recording surface with
a shader, and a table of optional functions on its own.  The first two share
the steps that every surface can take.  The first and the last are used through
handles, which can be copied on the way.

For each kind of step there is first its outcome, as far as it depends on what is
used at the moment, and then what it does to the state of the backend.
-/

namespace ShaderUniforms

/-!
## Steps on any surface
-/

inductive SurfaceStep where
  | setUniform (l : UniformLocation) (v : UniformValue)
  | upload (l : UniformLocation) (v : UniformValue)
  /-- An upload with numbers chosen freely. -/
  | native (l : UniformLocation) (u : Upload)
  | bind (t : Texture)
  | bindRaw (raw id : UInt32)
  /-- A binding that is not logged. -/
  | bindDirect (target : TextureTarget) (id : UInt32)
  | shaderSet (name : String) (v : UniformValue)
  | shaderTransform (m : Matrix Binary32 4 4)
  | shaderPass
  | shaderUse

namespace SurfaceStep

variable {gamma kappa : Type} [Surface gamma kappa]

def act (shader : Shader gamma kappa) : SurfaceStep -> Outcome kappa Unit
  | setUniform l v => Surface.setUniform shader.surface l v
  | upload l v => Surface.upload shader.surface l v
  | native l u => Surface.uniform shader.surface l u
  | bind t => Surface.bind shader.surface t
  | bindRaw raw id => Surface.bindRaw shader.surface raw id
  | bindDirect target id => Surface.bindTexture shader.surface target id
  | shaderSet name v => shader.setUniform name v
  | shaderTransform m => shader.setTransform m
  | shaderPass => shader.passUniforms
  | shaderUse => shader.activate

def perform (shader : Shader gamma kappa) (x : SurfaceStep) : Outcome kappa Reply := do
  x.act shader
  pure .done

end SurfaceStep

/-!
## Recording surfaces
-/

structure RecordingBackend where
  surface : Recording := {}
  shader : ShaderTable := {}

/-- Whatever a step records is written into the journal of the surface. -/
instance : Backend RecordingBackend SurfaceStep RecordedCall where
  perform b x :=
    let outcome := x.perform (b.shader.onRecording b.surface)
    (outcome.response, { b with surface := b.surface.write outcome.calls })
  drain b :=
    let (calls, surface) := b.surface.take
    (calls, { b with surface := surface })

/-!
## Contexts
-/

inductive ContextStep where
  | surface (x : SurfaceStep)
  | useProgram (p : Option Program)
  | locate (k : Variable) (p : Program) (name : String)
  | require (symbol : String)
  | supportsDouble
  /-- Goes on with a copy of the handle. -/
  | clone
  /-- Goes on with an earlier handle. -/
  | resume (n : Nat)
  /-- Asks the driver whether it exports a symbol. -/
  | lookup (symbol : String)

/-- A context, and the shader that is used on it. -/
structure ShadedContext where
  context : Context
  shader : ShaderTable := {}

def ShadedContext.clone (b : ShadedContext) : ShadedContext where
  context := b.context.clone
  shader := b.shader

namespace ContextStep

def perform (b : ShadedContext) : ContextStep -> Outcome NativeCall Reply
  | surface x => x.perform (b.shader.onContext b.context)
  | useProgram p => do
      b.context.useProgram p
      pure .done
  | locate k p name => do
      pure (.location k (<- b.context.locate k p name))
  | require symbol => do
      Outcome.ofExcept (b.context.require symbol)
      pure .done
  | supportsDouble => pure (.flag b.context.supportsDouble)
  | clone => pure .done
  | resume _ => pure .done
  | lookup symbol => pure (.flag (b.context.driver.exposes symbol))

def move : ContextStep -> HandleMove
  | clone => .clone
  | resume n => .resume n
  | _ => .stay

end ContextStep

instance : Backend (HandleBackend ShadedContext) ContextStep NativeCall where
  perform b x := b.after ShadedContext.clone (x.perform b.handles.get) x.move
  drain := HandleBackend.drain

/-!
## Function tables
-/

inductive TableStep where
  | native (l : UniformLocation) (u : Upload) (optional : u.function.isExtended = true)
  | require (symbol : String)
  | supportsDouble
  | clone
  | resume (n : Nat)

namespace TableStep

def perform (table : FunctionTable) : TableStep -> Outcome NativeCall Reply
  | native l u _ => do
      table.uniform l u
      pure .done
  | require symbol => do
      Outcome.ofExcept (table.require symbol)
      pure .done
  | supportsDouble => pure (.flag table.supportsDouble)
  | clone => pure .done
  | resume _ => pure .done

def move : TableStep -> HandleMove
  | clone => .clone
  | resume n => .resume n
  | _ => .stay

def toContextStep : TableStep -> ContextStep
  | native l u _ => .surface (.native l u)
  | require symbol => .require symbol
  | supportsDouble => .supportsDouble
  | clone => .clone
  | resume n => .resume n

end TableStep

instance : Backend (HandleBackend FunctionTable) TableStep NativeCall where
  perform b x := b.after FunctionTable.clone (x.perform b.handles.get) x.move
  drain := HandleBackend.drain

end ShaderUniforms
