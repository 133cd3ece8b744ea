import ShaderUniforms.Native.Call
import ShaderUniforms.Surface.Recording

/-!
# Replaying records

A recorded call stands for one native call: the function of the same shape at
the same location, with as many whole items as the record holds.
-/

namespace ShaderUniforms

namespace Components

/-- The first whole items of the given size. -/
def wholeItems (stride : Nat) (xs : Components) : Components :=
  ⟨xs.element, xs.values.take (xs.values.length / stride * stride)⟩

end Components

/-- The native call that a recorded call stands for. -/
def RecordedCall.toNative : RecordedCall -> NativeCall
  | uniform (.scalar e) l t xs => .uniform (.scalar e) l none t xs
  | uniform f l t xs =>
      .uniform f l (some (Int32.ofNat (xs.values.length / f.stride))) t
        (xs.wholeItems f.stride)
  | bindTexture target id => .bindTexture target.glConst id

end ShaderUniforms
