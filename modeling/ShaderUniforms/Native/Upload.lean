import ShaderUniforms.Glsl.Uniform

/-!
# Uploads

An upload names a native function and holds what to send through it: one number
for a scalar function, and a list of numbers for the others.  The list may hold
any number of items, and be cut off in the middle of one.  Matrix functions
also take a flag by which rows and columns change places.
-/

namespace ShaderUniforms

structure Components where
  element : Element
  values : List element.Val

namespace Components

protected def beq (a b : Components) : Bool :=
  if h : a.element = b.element then h ▸ a.values == b.values else false

instance : BEq Components where
  beq := Components.beq

theorem mk_beq_mk (e : Element) (xs ys : List e.Val) :
    (mk e xs == mk e ys) = (xs == ys) := by
  show Components.beq _ _ = _
  simp [Components.beq]

end Components

inductive Upload where
  | scalar (e : Element) (x : e.Val)
  | vector (e : Element) (n : Dim) (xs : List e.Val)
  | matrix (p : Precision) (c r : Dim) (transpose : Bool) (xs : List p.Val)

namespace Upload

def function : Upload -> UniformFunction
  | scalar e _ => .scalar e
  | vector e n _ => .vector e n
  | matrix p c r _ _ => .matrix p c r

/-- The flag, which only matrix functions take. -/
def transpose? : Upload -> Option Bool
  | scalar _ _ => none
  | vector _ _ _ => none
  | matrix _ _ _ t _ => some t

def components : Upload -> Components
  | scalar e x => ⟨e, [x]⟩
  | vector e _ xs => ⟨e, xs⟩
  | matrix p _ _ _ xs => ⟨p.element, xs⟩

end Upload

/-!
## Values as uploads

Booleans are sent as integers and matrices as they are stored, without the
exchange of rows and columns.  A slice can hold each of these matrices.
-/

theorem Dim.product_lt (c r : Dim) : c.size * r.size < lengthLimit := by
  cases c <;> cases r <;> decide

def UniformValue.toUpload : UniformValue -> Upload
  | scalar s x => .scalar s.element (s.encode x)
  | vector s n v => .vector s.element n (v.map s.encode).toList
  | matrix p c r m => .matrix p c r false (m.sliceOfLt (Dim.product_lt c r)).components

namespace UniformValue

theorem function_toUpload (v : UniformValue) : v.toUpload.function = v.type.function := by
  cases v <;> rfl

theorem toUpload_withoutBools (v : UniformValue) :
    v.withoutBools.toUpload = v.toUpload := by
  cases v with
  | scalar s x => rfl
  | vector s n v =>
      show Upload.vector s.element n ((v.map s.encode).map fun x => x).toList = _
      rw [Vector.map_id_fun']
      rfl
  | matrix p c r m => rfl

end UniformValue

end ShaderUniforms
