import ShaderUniforms.Journal
import ShaderUniforms.Surface.Basic

/-!
# Recording surface

A surface that carries nothing out.  It records what it is asked to do, each
request with all of its numbers, so that tests can look at the requests.  The
records are kept in a journal until they are taken out.
-/

namespace ShaderUniforms

/-- A request made to a recording surface. -/
inductive RecordedCall where
  | uniform (function : UniformFunction) (location : Int32) (transpose : Option Bool)
      (components : Components)
  | bindTexture (target : TextureTarget) (texture : UInt32)

namespace RecordedCall

/-- Recorded calls are compared part by part, their numbers as numbers. -/
protected def beq : RecordedCall -> RecordedCall -> Bool
  | uniform f l t xs, uniform g m u ys => f == g && l == m && t == u && xs == ys
  | bindTexture t x, bindTexture u y => t == u && x == y
  | _, _ => false

instance : BEq RecordedCall where
  beq := RecordedCall.beq

theorem uniform_beq_uniform (f g : UniformFunction) (l m : Int32) (t u : Option Bool)
    (xs ys : Components) :
    (uniform f l t xs == uniform g m u ys) = (f == g && l == m && t == u && xs == ys) :=
  rfl

def location? : RecordedCall -> Option Int32
  | uniform _ l _ _ => some l
  | bindTexture _ _ => none

/-- The name of the method that was called. -/
def name : RecordedCall -> String
  | uniform f _ _ _ => f.name
  | bindTexture _ _ => "bind_texture"

end RecordedCall

@[ext] structure Recording where
  journal : Journal RecordedCall := {}

namespace Recording

/-!
## The journal
-/

def write (surface : Recording) (calls : List RecordedCall) : Recording where
  journal := surface.journal.append calls

/-- Takes all records out. -/
def take (surface : Recording) : List RecordedCall × Recording :=
  let (calls, left) := surface.journal.take
  (calls, { journal := left })

/-!
## Records
-/

def record (l : UniformLocation) (u : Upload) : RecordedCall :=
  .uniform u.function l.value u.transpose? u.components

instance : Surface Recording RecordedCall where
  uniform _ l u := .call (record l u)
  bindTexture _ target id := .call (.bindTexture target id)

end Recording

end ShaderUniforms
