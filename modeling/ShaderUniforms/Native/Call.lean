import ShaderUniforms.Native.Upload

/-!
# Native calls

A call of a native function with its arguments.  Vector and matrix functions
take a count of items beside the numbers themselves, and read as many numbers
as the count asks for; what is left over at the end of the list is not read.

The count is a signed word of 32 bits.  It is found in one of two ways, which
differ only for lists too long for such a word: the length is cut to a word and
then divided, or it is divided and then cut.
-/

namespace ShaderUniforms

inductive NativeCall where
  | uniform (function : UniformFunction) (location : Int32) (count : Option Int32)
      (transpose : Option Bool) (components : Components)
  | bindTexture (target texture : UInt32)
  | useProgram (program : UInt32)
  | getLocation (k : Variable) (program : UInt32) (name : String)

namespace NativeCall

def function : NativeCall -> NativeFunction
  | uniform f _ _ _ _ => .uniform f
  | bindTexture _ _ => .bindTexture
  | useProgram _ => .useProgram
  | getLocation k _ _ => .getLocation k

def symbol (c : NativeCall) : String :=
  c.function.symbol

def location? : NativeCall -> Option Int32
  | uniform _ l _ _ _ => some l
  | _ => none

end NativeCall

/-!
## Counts
-/

/-- The first natural number that is too large for a signed word of 32 bits. -/
def wordLimit : Nat :=
  2147483648

/-- How many items a list of the given length holds. -/
abbrev CountRule :=
  (length stride : Nat) -> Int32

namespace CountRule

/-- The rule counts whole items wherever the length and the stride are words. -/
def Exact (rule : CountRule) : Prop :=
  forall {length stride : Nat}, length < wordLimit -> stride < wordLimit ->
    rule length stride = Int32.ofNat (length / stride)

/-- The length becomes a word first. -/
def cutThenDivide : CountRule :=
  fun length stride => Int32.ofNat length / Int32.ofNat stride

/-- The length is divided first. -/
def divideThenCut : CountRule :=
  fun length stride => Int32.ofNat (length / stride)

theorem cutThenDivide_exact : cutThenDivide.Exact := by
  intro length stride hlength hstride
  exact (Int32.ofNat_div hlength hstride).symm

theorem divideThenCut_exact : divideThenCut.Exact := by
  intro length stride _ _
  rfl

end CountRule

/-- The numbers that a function reads when it is asked for `count` items. -/
def covered {alpha : Type} (count : Int32) (stride : Nat) (xs : List alpha) : List alpha :=
  xs.take (count.toNatClampNeg * stride)

namespace Upload

/-- The native call that carries out an upload. -/
def toCall (rule : CountRule) (l : UniformLocation) : Upload -> NativeCall
  | scalar e x => .uniform (.scalar e) l.value none none ⟨e, [x]⟩
  | vector e n xs =>
      let count := rule xs.length n.size
      .uniform (.vector e n) l.value (some count) none ⟨e, covered count n.size xs⟩
  | matrix p c r t xs =>
      let stride := c.size * r.size
      let count := rule xs.length stride
      .uniform (.matrix p c r) l.value (some count) (some t)
        ⟨p.element, covered count stride xs⟩

theorem function_toCall (rule : CountRule) (l : UniformLocation) (u : Upload) :
    (u.toCall rule l).function = .uniform u.function := by
  cases u <;> rfl

theorem symbol_toCall (rule : CountRule) (l : UniformLocation) (u : Upload) :
    (u.toCall rule l).symbol = u.function.symbol := by
  unfold NativeCall.symbol
  rw [u.function_toCall]
  rfl

theorem location?_toCall (rule : CountRule) (l : UniformLocation) (u : Upload) :
    (u.toCall rule l).location? = some l.value := by
  cases u <;> rfl

end Upload

end ShaderUniforms
