import ShaderUniforms.Glsl.Type
import ShaderUniforms.Texture.Target

/-!
# Log

What the library tells its host beside its results.  Each event has a level and
a text; the event itself keeps what the text speaks about.
-/

namespace ShaderUniforms

inductive LogLevel where
  | trace
  | debug
  | warn
  | error
  deriving DecidableEq

def LogLevel.name : LogLevel -> String
  | trace => "trace"
  | debug => "debug"
  | warn => "warn"
  | error => "error"

inductive LogEvent where
  /-- A value was to be set at no location. -/
  | locationNotFound (type : GlslType)
  /-- A value was to be set under a name that the program does not use. -/
  | inactiveUniform (name : String) (program : UInt32)
  | bindingTexture (texture : Texture)
  /-- Loading found no such function. -/
  | functionUnavailable (function : UniformFunction)
  /-- An upload needed a function that loading did not find. -/
  | uploadSkipped (function : UniformFunction)
  deriving DecidableEq

namespace LogEvent

def level : LogEvent -> LogLevel
  | locationNotFound _ => .debug
  | inactiveUniform _ _ => .debug
  | bindingTexture _ => .trace
  | functionUnavailable _ => .warn
  | uploadSkipped _ => .error

def text : LogEvent -> String
  | locationNotFound type =>
      "skipping " ++ type.name ++ " uniform upload, location not found"
  | inactiveUniform name program =>
      s!"uniform `{name}` is not active in program {program.toNat}, skipping"
  | bindingTexture texture =>
      s!"binding texture {texture.id.toNat} to {texture.target.name}"
  | functionUnavailable function =>
      function.symbol ++ " is not available, uploads relying on it will be skipped"
  | uploadSkipped function =>
      function.symbol
        ++ " is not available in the current GL context, uniform upload skipped"

end LogEvent

end ShaderUniforms
