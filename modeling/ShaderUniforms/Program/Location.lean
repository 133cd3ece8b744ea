/-!
# Programs and locations

A linked shader program has a non-zero number.  Its variables, which are
uniforms and vertex attributes, are reached through locations: signed numbers,
of which `-1` means that there is no such variable.
-/

namespace ShaderUniforms

/-- A linked program. Number zero is kept for the absence of one. -/
structure Program where
  id : UInt32
  id_ne_zero : id ≠ 0

namespace Program

def ofId? (id : UInt32) : Option Program :=
  if h : id = 0 then none else some ⟨id, h⟩

theorem ofId?_eq_none_iff {id : UInt32} : ofId? id = none <-> id = 0 := by
  simp [ofId?]

end Program

/-- The variables of a program that have locations. -/
inductive Variable where
  | uniform
  | attribute
  deriving DecidableEq

/-- Where a program keeps a variable. -/
@[ext] structure Location (k : Variable) where
  value : Int32
  deriving DecidableEq

abbrev UniformLocation := Location .uniform

abbrev AttribLocation := Location .attribute

namespace Location

variable {k : Variable}

def notFound : Location k :=
  ⟨-1⟩

instance : Inhabited (Location k) where
  default := notFound

/-- Any number but `-1` counts as a location, other negative ones too. -/
def isFound (l : Location k) : Bool :=
  l != notFound

/-- The location of the index that a look-up has found, or that of none. -/
def ofIndex? (index : Option UInt32) : Location k :=
  index.elim notFound fun i => ⟨i.toInt32⟩

/-- The index of an attribute, which no negative location has. -/
def index? (l : AttribLocation) : Option UInt32 :=
  if l.value < 0 then none else some l.value.toUInt32

theorem isFound_eq_false_iff {l : Location k} : l.isFound = false <-> l = notFound := by
  simp [isFound]

theorem isFound_eq_true_iff {l : Location k} : l.isFound = true <-> l ≠ notFound := by
  simp [isFound]

/-!
## Text
-/

def text (l : Location k) : String :=
  toString l.value.toInt

def describe (l : Location k) : String :=
  match k with
  | .uniform => "UniformLocation(" ++ l.text ++ ")"
  | .attribute => "AttribLocation(" ++ l.text ++ ")"

end Location

end ShaderUniforms
