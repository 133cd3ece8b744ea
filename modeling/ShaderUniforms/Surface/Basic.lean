import ShaderUniforms.Native.Upload
import ShaderUniforms.Outcome

/-!
# Surfaces

A surface takes uploads and texture bindings.  What it does with them shows in
the calls that it makes.  On any surface, a value is uploaded through the one
function of its shape, and setting a uniform does nothing but log when there is
no location to set.
-/

namespace ShaderUniforms

/-- The operations of a surface, which makes calls of type `kappa`. -/
class Surface (gamma : Type) (kappa : outParam Type) where
  /-- Sends numbers to a location, whether there is anything at it or not. -/
  uniform : gamma -> UniformLocation -> Upload -> Outcome kappa Unit
  bindTexture : gamma -> TextureTarget -> UInt32 -> Outcome kappa Unit

namespace Surface

variable {gamma kappa : Type} [Surface gamma kappa]

/-- Uploads a value, whether there is anything at the location or not. -/
def upload (surface : gamma) (l : UniformLocation) (v : UniformValue) :
    Outcome kappa Unit :=
  uniform surface l v.toUpload

/-- Uploads a value if there is a location to upload it to. -/
def setUniform (surface : gamma) (l : UniformLocation) (v : UniformValue) :
    Outcome kappa Unit :=
  if l.isFound then upload surface l v
  else .log (.locationNotFound v.type)

def bind (surface : gamma) (t : Texture) : Outcome kappa Unit := do
  .log (.bindingTexture t)
  bindTexture surface t.target t.id

def bindRaw (surface : gamma) (raw id : UInt32) : Outcome kappa Unit := do
  bind surface (<- .ofExcept (Texture.ofConst raw id))

theorem setUniform_of_isFound (surface : gamma) {l : UniformLocation}
    (h : l.isFound = true) (v : UniformValue) :
    setUniform surface l v = upload surface l v := by
  simp [setUniform, h]

theorem setUniform_notFound (surface : gamma) (v : UniformValue) :
    setUniform surface .notFound v = .log (.locationNotFound v.type) :=
  rfl

end Surface

end ShaderUniforms
