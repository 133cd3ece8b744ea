import ShaderUniforms.Gl.Binding

/-!
# Drivers

A driver is known by what it answers: which functions it exports, and at which
locations the variables of each program are.  With it comes the binding through
which most of its functions are called.
-/

namespace ShaderUniforms

structure Driver where
  exposes : String -> Bool
  /-- The location of a variable, by the number of the program and the name. -/
  locate : Variable -> UInt32 -> String -> Int32
  binding : Binding := .standard

/-!
## Drivers given by tables
-/

/-- Named locations. A name that is not listed has location `-1`. -/
abbrev LocationTable :=
  List (String × Int32)

def LocationTable.answer (table : LocationTable) (name : String) : Int32 :=
  (table.lookup name).getD (-1)

structure LinkedProgram where
  id : UInt32
  uniforms : LocationTable
  attributes : LocationTable

def LinkedProgram.table (p : LinkedProgram) : Variable -> LocationTable
  | .uniform => p.uniforms
  | .attribute => p.attributes

namespace Driver

/-- Functions that a driver has besides those that are called here. -/
def queryFunctions : List String :=
  ["glGetString", "glGetIntegerv"]

def knownSymbols : List String :=
  NativeFunction.all.map NativeFunction.symbol ++ queryFunctions

/-- A driver that knows the given programs and hides some of its functions. -/
def ofTables (hidden : List String) (programs : List LinkedProgram) : Driver where
  exposes symbol := knownSymbols.contains symbol && !hidden.contains symbol
  locate k id name :=
    match programs.find? fun p => p.id == id with
    | some p => (p.table k).answer name
    | none => -1

end Driver

end ShaderUniforms
