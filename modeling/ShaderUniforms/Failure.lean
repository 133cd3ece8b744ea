import ShaderUniforms.Native.Function

/-!
# Failures

Two kinds of failure end an operation early.  An error is reported to the
caller, who asked for something that does not exist.  A fault aborts the
operation, because it cannot be carried out at all.
-/

namespace ShaderUniforms

inductive Error where
  | unknownTextureTarget (raw : UInt32)
  | missingFunction (symbol : String)
  deriving DecidableEq

namespace Error

/-- A number in lower-case hexadecimal, without padding. -/
def hexadecimal (x : UInt32) : String :=
  "0x" ++ String.ofList (Nat.toDigits 16 x.toNat)

def message : Error -> String
  | unknownTextureTarget raw => hexadecimal raw ++ " is not a texture target"
  | missingFunction symbol => symbol ++ " is not exposed by the current GL context"

end Error

inductive Fault where
  /-- The driver does not export a function that was called. -/
  | notLoaded (function : NativeFunction)
  /-- A name holds a NUL, which would end it early: its byte position, and all bytes. -/
  | nulInName (position : Nat) (bytes : List UInt8)
  deriving DecidableEq

namespace Fault

def message : Fault -> String
  | notLoaded function => "called " ++ function.symbol ++ " but it was not loaded."
  | nulInName position bytes =>
      let listed := ", ".intercalate (bytes.map fun b => toString b.toNat)
      s!"called `Result::unwrap()` on an `Err` value: NulError({position}, [{listed}])"

end Fault

inductive Failure where
  | rejected (e : Error)
  | aborted (f : Fault)
  deriving DecidableEq

namespace Failure

def message : Failure -> String
  | rejected e => e.message
  | aborted f => f.message

end Failure

end ShaderUniforms
