import ShaderUniforms.Failure

/-!
# Texture targets

A texture is bound to one of eleven targets.  The graphics library writes a
target as a number, which it has under a name in its enumeration.  The numbers of
two targets differ, so a number read back names at most one target.
-/

namespace ShaderUniforms

inductive TextureTarget where
  | d1
  | d2
  | d3
  | d1Array
  | d2Array
  | rectangle
  | cubeMap
  | cubeMapArray
  | buffer
  | d2Multisample
  | d2MultisampleArray
  deriving DecidableEq

namespace TextureTarget

def all : List TextureTarget :=
  [d1, d2, d3, d1Array, d2Array, rectangle, cubeMap, cubeMapArray, buffer,
    d2Multisample, d2MultisampleArray]

theorem mem_all (t : TextureTarget) : t ∈ all := by
  cases t <;> decide

def name : TextureTarget -> String
  | d1 => "D1"
  | d2 => "D2"
  | d3 => "D3"
  | d1Array => "D1Array"
  | d2Array => "D2Array"
  | rectangle => "Rectangle"
  | cubeMap => "CubeMap"
  | cubeMapArray => "CubeMapArray"
  | buffer => "Buffer"
  | d2Multisample => "D2Multisample"
  | d2MultisampleArray => "D2MultisampleArray"

def ofName? (name : String) : Option TextureTarget :=
  all.find? fun t => t.name == name

end TextureTarget

/-!
## Numbers

The enumeration is not part of this library.  It is relied on for nothing but that
its numbers differ.
-/

/-- The entries of the enumeration that name targets. -/
structure TextureConstants where
  texture1D : UInt32
  texture2D : UInt32
  texture3D : UInt32
  texture1DArray : UInt32
  texture2DArray : UInt32
  textureRectangle : UInt32
  textureCubeMap : UInt32
  textureCubeMapArray : UInt32
  textureBuffer : UInt32
  texture2DMultisample : UInt32
  texture2DMultisampleArray : UInt32
  nodup : List.Nodup
    [texture1D, texture2D, texture3D, texture1DArray, texture2DArray, textureRectangle,
      textureCubeMap, textureCubeMapArray, textureBuffer, texture2DMultisample,
      texture2DMultisampleArray]

/-- The numbers that the graphics library has published. -/
def TextureConstants.published : TextureConstants where
  texture1D := 0x0DE0
  texture2D := 0x0DE1
  texture3D := 0x806F
  texture1DArray := 0x8C18
  texture2DArray := 0x8C1A
  textureRectangle := 0x84F5
  textureCubeMap := 0x8513
  textureCubeMapArray := 0x9009
  textureBuffer := 0x8C2A
  texture2DMultisample := 0x9100
  texture2DMultisampleArray := 0x9102
  nodup := by decide

namespace TextureTarget

def constIn (constants : TextureConstants) : TextureTarget -> UInt32
  | d1 => constants.texture1D
  | d2 => constants.texture2D
  | d3 => constants.texture3D
  | d1Array => constants.texture1DArray
  | d2Array => constants.texture2DArray
  | rectangle => constants.textureRectangle
  | cubeMap => constants.textureCubeMap
  | cubeMapArray => constants.textureCubeMapArray
  | buffer => constants.textureBuffer
  | d2Multisample => constants.texture2DMultisample
  | d2MultisampleArray => constants.texture2DMultisampleArray

def ofConstIn (constants : TextureConstants) (raw : UInt32) : Except Error TextureTarget :=
  match all.find? fun t => t.constIn constants == raw with
  | some t => .ok t
  | none => .error (.unknownTextureTarget raw)

/-- The number that the graphics library gives to the target. -/
def glConst (t : TextureTarget) : UInt32 :=
  t.constIn .published

def ofConst (raw : UInt32) : Except Error TextureTarget :=
  ofConstIn .published raw

end TextureTarget

/-- A texture's number with the target it belongs to. -/
structure Texture where
  target : TextureTarget
  id : UInt32
  deriving DecidableEq

namespace Texture

def ofConst (raw id : UInt32) : Except Error Texture :=
  (TextureTarget.ofConst raw).map fun t => ⟨t, id⟩

def describe (t : Texture) : String :=
  s!"Texture \x7b target: {t.target.name}, id: {t.id.toNat} \x7d"

end Texture

end ShaderUniforms
