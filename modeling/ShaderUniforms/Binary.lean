/-!
# Binary floating point

A number in a binary interchange format is kept as its bit pattern: one sign
bit, then `e` exponent bits, then `f` fraction bits.  Copying a number never
touches its bits.  Only comparison reads them, and it reads them as the
arithmetic standard does: nothing equals a NaN, and the two zeros are equal.
-/

namespace ShaderUniforms

/-- A bit pattern with one sign bit, `e` exponent bits and `f` fraction bits. -/
@[ext] structure Binary (e f : Nat) where
  bits : BitVec (1 + e + f)

abbrev Binary32 := Binary 8 23

abbrev Binary64 := Binary 11 52

namespace Binary

variable {e f : Nat}

/-!
## The number behind the bits

Below the sign bit, exponent and fraction together order the magnitudes: a
larger pattern is a larger number, and every pattern above that of infinity is
a NaN.
-/

/-- Exponent and fraction bits, read as one natural number. -/
def magnitude (x : Binary e f) : Nat :=
  (x.bits.setWidth (e + f)).toNat

def isNegative (x : Binary e f) : Bool :=
  x.bits.msb

/-- The magnitude with all exponent bits set and no fraction bit. -/
def infinityMagnitude (e f : Nat) : Nat :=
  (BitVec.allOnes e).toNat <<< f

def isNaN (x : Binary e f) : Bool :=
  decide (infinityMagnitude e f < x.magnitude)

/-- The magnitude with its sign. Both zeros give `0`. -/
def signed (x : Binary e f) : Int :=
  if x.isNegative then -(x.magnitude : Int) else (x.magnitude : Int)

/-- Equality of numbers: never true of a NaN, blind to the sign of a zero. -/
protected def beq (x y : Binary e f) : Bool :=
  !x.isNaN && !y.isNaN && x.signed == y.signed

instance : BEq (Binary e f) where
  beq := Binary.beq

theorem beq_eq (x y : Binary e f) :
    (x == y) = (!x.isNaN && !y.isNaN && x.signed == y.signed) :=
  rfl

/-!
## Constants
-/

instance : Zero (Binary e f) where
  zero := ⟨0⟩

/-- One: the exponent equals the bias and the fraction is empty. -/
instance : One (Binary e f) where
  one := ⟨BitVec.ofNat _ ((BitVec.allOnes (e - 1)).toNat <<< f)⟩

/-- The positive quiet NaN without payload. -/
def quietNaN : Binary e f :=
  ⟨BitVec.ofNat _ ((BitVec.allOnes (e + 1)).toNat <<< (f - 1))⟩

end Binary

end ShaderUniforms
