import ShaderUniforms.Native.Reading
import ShaderUniforms.Proofs.Glsl.Layout
import ShaderUniforms.Proofs.Native.Counts

/-!
# Delivery of values

When does a call send a value?  The rules are stated number by number, as a
relation between calls and values that does not mention how a call is made.  A
call that follows them is read back as the value, and the call that is made for
a value follows them.
-/

namespace ShaderUniforms

/-!
## Single components
-/

namespace Scalar

/-- The number that arrives for a component: itself, or `0` or `1` for a boolean. -/
inductive Arrives : (s : Scalar) -> s.Val -> s.element.Val -> Prop where
  | number (e : Element) (x : e.Val) : Arrives (.num e) x x
  | no : Arrives .bool false (0 : Int32)
  | yes : Arrives .bool true (1 : Int32)

theorem arrives_encode (s : Scalar) (x : s.Val) : s.Arrives x (s.encode x) := by
  cases s with
  | num e => exact Arrives.number e x
  | bool =>
      cases x with
      | false => exact Arrives.no
      | true => exact Arrives.yes

theorem Arrives.eq_encode {s : Scalar} {x : s.Val} {y : s.element.Val}
    (h : s.Arrives x y) : y = s.encode x := by
  cases h with
  | number e => rfl
  | no => rfl
  | yes => rfl

end Scalar

/-!
## Whole values
-/

namespace NativeCall

/--
The call sends the value to the location: it calls a function of the value's
shape, asks for one item where it asks for a count, leaves rows and columns in
place, and holds one number for each component.
-/
inductive Sends : NativeCall -> UniformLocation -> UniformValue -> Prop where
  | scalar {l : UniformLocation} {s : Scalar} {x : s.Val} {y : s.element.Val}
      (harrives : s.Arrives x y) :
      Sends (.uniform (.scalar s.element) l.value none none ⟨s.element, [y]⟩) l (.scalar s x)
  | vector {l : UniformLocation} {s : Scalar} {n : Dim} {v : Vector s.Val n.size}
      (numbers : Vector s.element.Val n.size)
      (harrives : forall (i : Nat) (hi : i < n.size), s.Arrives v[i] numbers[i]) :
      Sends
        (.uniform (.vector s.element n) l.value (some 1) none ⟨s.element, numbers.toList⟩)
        l (.vector s n v)
  | matrix {l : UniformLocation} {p : Precision} {c r : Dim}
      {m : Matrix p.Val c.size r.size}
      (numbers : Vector p.Val (c.size * r.size))
      (harrives : forall (i j : Nat) (hi : i < c.size) (hj : j < r.size),
        numbers[i * r.size + j]? = some m.columns[i][j]) :
      Sends
        (.uniform (.matrix p c r) l.value (some 1) (some false)
          ⟨p.element, numbers.toList⟩)
        l (.matrix p c r m)

theorem Sends.function_eq {call : NativeCall} {l : UniformLocation} {v : UniformValue}
    (h : call.Sends l v) : call.function = .uniform v.type.function := by
  cases h with
  | scalar _ => rfl
  | vector _ _ => rfl
  | matrix _ _ => rfl

theorem Sends.symbol_eq {call : NativeCall} {l : UniformLocation} {v : UniformValue}
    (h : call.Sends l v) : call.symbol = v.type.function.symbol := by
  unfold symbol
  rw [h.function_eq]
  rfl

end NativeCall

/-!
## Reading back

A variable of a boolean type takes integers, and every integer but zero means
true.  Any other variable takes values of its own type only.
-/

/-- The value that a variable of the type holds once a value has been sent to it. -/
def GlslType.held? (t : GlslType) (v : UniformValue) : Option UniformValue :=
  match t, v with
  | .scalar .bool, .scalar (.num .int) x => some (.scalar .bool (x != (0 : Int32)))
  | .vector .bool m, .vector (.num .int) n xs =>
      if m = n then some (.vector .bool n (xs.map fun x => x != (0 : Int32))) else none
  | t, v => if v.type = t then some v else none

namespace NativeCall

/-- The location that a call writes, and the value that a variable of the type there holds. -/
def readAs? (t : GlslType) (call : NativeCall) : Option (UniformLocation × UniformValue) := do
  let (l, v) <- call.read?
  let held <- t.held? v
  some (l, held)

end NativeCall

theorem Scalar.encode_bool_ne_zero (b : Bool) :
    (Scalar.encode .bool b != (0 : Int32)) = b := by
  cases b with
  | false => rfl
  | true => rfl

namespace UniformValue

theorem withoutBools_vector_num (e : Element) (n : Dim) (v : Vector e.Val n.size) :
    (vector (.num e) n v).withoutBools = vector (.num e) n v :=
  congrArg (vector (.num e) n) (Vector.map_id' v)

end UniformValue

namespace GlslType

theorem held?_withoutBools (v : UniformValue) :
    v.type.held? v.withoutBools = some v := by
  cases v with
  | scalar s x =>
      cases s with
      | num e => exact if_pos rfl
      | bool =>
          exact congrArg (fun b => some (UniformValue.scalar .bool b))
            (Scalar.encode_bool_ne_zero x)
  | vector s n v =>
      cases s with
      | num e =>
          rw [UniformValue.withoutBools_vector_num]
          exact if_pos rfl
      | bool =>
          have hmap : v.map (fun b => Scalar.encode .bool b != (0 : Int32)) = v :=
            Vector.map_id'' Scalar.encode_bool_ne_zero v
          show (if n = n then some (UniformValue.vector .bool n _) else none) = _
          rw [if_pos rfl]
          exact congrArg (fun w => some (UniformValue.vector .bool n w))
            (Vector.map_map.trans hmap)
  | matrix p c r m => exact if_pos rfl

end GlslType

namespace UniformFunction

theorem value?_scalar (e : Element) (x : e.Val) :
    (scalar e).value? none none ⟨e, [x]⟩ = some (.scalar (.num e) x) := by
  show Option.bind (Components.as? e ⟨e, [x]⟩) _ = _
  rw [Components.as?_mk]
  rfl

theorem value?_vector (e : Element) (n : Dim) (numbers : Vector e.Val n.size) :
    (vector e n).value? (some 1) none ⟨e, numbers.toList⟩ =
      some (.vector (.num e) n numbers) := by
  show Option.bind (Components.as? e ⟨e, numbers.toList⟩) _ = _
  rw [Components.as?_mk]
  show (if h : numbers.toList.length = n.size then _ else none) = _
  rw [dif_pos Vector.length_toList]
  rfl

theorem value?_matrix {p : Precision} {c r : Dim} {numbers : List p.Val}
    {m : Matrix p.Val c.size r.size} (hnumbers : Matrix.ofFlat? numbers = some m) :
    (matrix p c r).value? (some 1) (some false) ⟨p.element, numbers⟩ =
      some (.matrix p c r m) := by
  show Option.bind (Components.as? p.element ⟨p.element, numbers⟩) _ = _
  rw [Components.as?_mk]
  show (do let n <- Matrix.ofFlat? numbers; some (UniformValue.matrix p c r n)) = _
  rw [hnumbers]
  rfl

end UniformFunction

namespace NativeCall

theorem read?_uniform {f : UniformFunction} {count : Option Int32}
    {transpose : Option Bool} {xs : Components} {v : UniformValue}
    (hvalue : f.value? count transpose xs = some v) (l : Int32) :
    (uniform f l count transpose xs).read? = some (⟨l⟩, v) := by
  show (do
    let g <- UniformFunction.ofSymbol? f.symbol
    let w <- g.value? count transpose xs
    some ((⟨l⟩ : UniformLocation), w)) = _
  rw [UniformFunction.ofSymbol?_symbol]
  show (do let w <- f.value? count transpose xs; some ((⟨l⟩ : UniformLocation), w)) = _
  rw [hvalue]
  rfl

theorem Sends.read?_eq {call : NativeCall} {l : UniformLocation} {v : UniformValue}
    (h : call.Sends l v) : call.read? = some (l, v.withoutBools) := by
  cases h with
  | @scalar _ s x y harrives =>
      rw [harrives.eq_encode]
      exact read?_uniform (UniformFunction.value?_scalar s.element (s.encode x)) l.value
  | @vector _ s n v numbers harrives =>
      have hnumbers : numbers = v.map s.encode := by
        apply Vector.ext
        intro i hi
        rw [Vector.getElem_map]
        exact (harrives i hi).eq_encode
      rw [hnumbers]
      exact read?_uniform
        (UniformFunction.value?_vector s.element n (v.map s.encode)) l.value
  | @matrix _ p c r m numbers harrives =>
      have hflat : Matrix.ofFlat? numbers.toList = some m := by
        apply Matrix.ofFlat?_eq_some Vector.length_toList
        intro i j hi hj
        rw [<- harrives i j hi hj]
        exact Vector.getElem?_toList
      exact read?_uniform (UniformFunction.value?_matrix hflat) l.value

theorem Sends.readAs?_eq {call : NativeCall} {l : UniformLocation} {v : UniformValue}
    (h : call.Sends l v) : call.readAs? v.type = some (l, v) := by
  unfold readAs?
  rw [h.read?_eq]
  show (do let held <- v.type.held? v.withoutBools; some (l, held)) = some (l, v)
  rw [GlslType.held?_withoutBools]
  rfl

end NativeCall

/-!
## The call that is made for a value

Both ways of counting find one item in the numbers of a value, and the call
covers them all.
-/

namespace UniformValue

theorem sends_toCall {rule : CountRule} (hrule : rule.Exact) (l : UniformLocation)
    (v : UniformValue) : (v.toUpload.toCall rule l).Sends l v := by
  have hpos : 0 < v.type.function.stride := v.type.function.stride_pos
  have hlimit : v.type.function.stride < wordLimit :=
    v.type.function.stride_lt_wordLimit
  cases v with
  | scalar s x =>
      exact NativeCall.Sends.scalar (s.arrives_encode x)
  | vector s n v =>
      have hlength : (v.map s.encode).toList.length = n.size := Vector.length_toList
      have hcount : rule n.size n.size = 1 := hrule.count_one hpos hlimit
      simp only [toUpload, Upload.toCall]
      rw [hlength, hcount, covered_one hlength]
      apply NativeCall.Sends.vector
      intro i hi
      rw [Vector.getElem_map]
      exact s.arrives_encode v[i]
  | matrix p c r m =>
      have hlength : m.toList.length = c.size * r.size := m.length_toList
      have hcount : rule (c.size * r.size) (c.size * r.size) = 1 :=
        hrule.count_one hpos hlimit
      simp only [toUpload, Upload.toCall, Matrix.components_sliceOfLt]
      rw [hlength, hcount, covered_one hlength]
      apply NativeCall.Sends.matrix m.flatten
      intro i j hi hj
      rw [<- Vector.getElem?_toList]
      exact m.getElem?_toList hi hj

end UniformValue

end ShaderUniforms
