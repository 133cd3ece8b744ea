import ShaderUniforms.Native.Call

/-!
# Reading native calls

The graphics library's own rules for what a call means, which start from the
symbol alone.  After `glUniform` comes a digit for the length of a vector, or
`Matrix` and one digit for a square matrix or two digits for columns and rows.
Letters for the kind of number follow, and a `v` where numbers come as a list.

A call that sends one whole item is read back as a value.  A matrix is read
column after column.
-/

namespace ShaderUniforms

/-!
## Symbols
-/

namespace Dim

def ofDigit? : Char -> Option Dim
  | '2' => some two
  | '3' => some three
  | '4' => some four
  | _ => none

end Dim

namespace Element

/-- The kind of number whose letters stand at the end of a symbol. -/
def ofLetters? : List Char -> Option Element
  | ['f'] => some float
  | ['d'] => some double
  | ['u', 'i'] => some uint
  | ['i'] => some int
  | _ => none

/-- The same where a `v` ends the symbol. -/
def ofListLetters? : List Char -> Option Element
  | ['f', 'v'] => some float
  | ['d', 'v'] => some double
  | ['u', 'i', 'v'] => some uint
  | ['i', 'v'] => some int
  | _ => none

end Element

namespace Precision

def ofListLetters? : List Char -> Option Precision
  | ['f', 'v'] => some single
  | ['d', 'v'] => some double
  | _ => none

end Precision

namespace UniformFunction

/-- The matrix function whose symbol ends in the given letters. -/
def ofMatrixSuffix? : List Char -> Option UniformFunction
  | columns :: 'x' :: rows :: letters => do
      let c <- Dim.ofDigit? columns
      let r <- Dim.ofDigit? rows
      let p <- Precision.ofListLetters? letters
      if c = r then none else some (matrix p c r)
  | side :: letters => do
      let n <- Dim.ofDigit? side
      let p <- Precision.ofListLetters? letters
      some (matrix p n n)
  | [] => none

/-- The upload function whose symbol ends in the given letters. -/
def ofSuffix? : List Char -> Option UniformFunction
  | 'M' :: 'a' :: 't' :: 'r' :: 'i' :: 'x' :: rest => ofMatrixSuffix? rest
  | '1' :: letters => (Element.ofLetters? letters).map scalar
  | digit :: letters => do
      let n <- Dim.ofDigit? digit
      let e <- Element.ofListLetters? letters
      some (vector e n)
  | [] => none

def ofSymbol? (symbol : String) : Option UniformFunction :=
  match symbol.toList with
  | 'g' :: 'l' :: 'U' :: 'n' :: 'i' :: 'f' :: 'o' :: 'r' :: 'm' :: rest => ofSuffix? rest
  | _ => none

theorem ofSymbol?_symbol (f : UniformFunction) : ofSymbol? f.symbol = some f := by
  cases f with
  | scalar e => cases e <;> rfl
  | vector e n => cases e <;> cases n <;> rfl
  | matrix p c r => cases p <;> cases c <;> cases r <;> rfl

theorem symbol_injective {f g : UniformFunction} (h : f.symbol = g.symbol) : f = g := by
  have hsome : some f = some g := by
    rw [<- ofSymbol?_symbol f, <- ofSymbol?_symbol g, h]
  injection hsome

end UniformFunction

/-!
## Arguments
-/

namespace Components

/-- The numbers, if they are of the given kind. -/
def as? (e : Element) (xs : Components) : Option (List e.Val) :=
  if h : xs.element = e then some (h ▸ xs.values) else none

@[simp] theorem as?_mk (e : Element) (xs : List e.Val) : as? e ⟨e, xs⟩ = some xs := by
  simp [as?]

end Components

namespace UniformFunction

/-- The value that the function makes of its arguments, if they hold one item. -/
def value? (f : UniformFunction) (count : Option Int32) (transpose : Option Bool)
    (xs : Components) : Option UniformValue :=
  match f, count, transpose with
  | scalar e, none, none => do
      match (<- xs.as? e) with
      | [x] => some (.scalar (.num e) x)
      | _ => none
  | vector e n, some 1, none => do
      let values <- xs.as? e
      if h : values.length = n.size then
        some (.vector (.num e) n ⟨values.toArray, by simp [h]⟩)
      else none
  | matrix p c r, some 1, some false => do
      let m <- Matrix.ofFlat? (<- xs.as? p.element)
      some (.matrix p c r m)
  | _, _, _ => none

end UniformFunction

/-- The location and the value that an upload sends. -/
def NativeCall.read? (c : NativeCall) : Option (UniformLocation × UniformValue) :=
  match c with
  | uniform _ l count transpose xs => do
      let f <- UniformFunction.ofSymbol? c.symbol
      let v <- f.value? count transpose xs
      some (⟨l⟩, v)
  | _ => none

end ShaderUniforms
