import ShaderUniforms.Gl.Driver
import ShaderUniforms.Native.Call
import ShaderUniforms.Outcome

/-!
# Tables of optional functions

The functions that a driver may lack are looked up one after the other, once.
Each one that is missing is logged at that time.  Later, an upload through a
missing function is skipped and logged; the upload itself never fails.
-/

namespace ShaderUniforms

/-- The optional functions that were found. -/
structure FunctionTable where
  loaded : List UniformFunction := []
  deriving DecidableEq

namespace FunctionTable

/-- A copy of the table, part by part. -/
def clone (table : FunctionTable) : FunctionTable where
  loaded := table.loaded

def has (table : FunctionTable) (f : UniformFunction) : Bool :=
  table.loaded.contains f

/-- Refuses a symbol unless it names an optional function that was found. -/
def require (table : FunctionTable) (symbol : String) : Except Error Unit :=
  if table.loaded.any fun f => f.symbol == symbol then .ok ()
  else .error (.missingFunction symbol)

def supportsDouble (table : FunctionTable) : Bool :=
  UniformFunction.doublePrecision.all table.has

def uniform (table : FunctionTable) (l : UniformLocation) (u : Upload) :
    Outcome NativeCall Unit :=
  if table.has u.function then .call (u.toCall .divideThenCut l)
  else .log (.uploadSkipped u.function)

theorem has_eq_true_iff {table : FunctionTable} {f : UniformFunction} :
    table.has f = true <-> f ∈ table.loaded := by
  simp [has]

theorem uniform_of_has {table : FunctionTable} {u : Upload}
    (h : table.has u.function = true) (l : UniformLocation) :
    table.uniform l u = .call (u.toCall .divideThenCut l) := by
  simp [uniform, h]

theorem uniform_of_not_has {table : FunctionTable} {u : Upload}
    (h : table.has u.function = false) (l : UniformLocation) :
    table.uniform l u = .log (.uploadSkipped u.function) := by
  simp [uniform, h]

end FunctionTable

/-!
## Loading
-/

/-- What loading has found, and what it did on the way. -/
structure Loading where
  table : FunctionTable := {}
  /-- The symbols that the driver was asked for, in order. -/
  lookups : List String := []
  logs : List LogEvent := []
  deriving DecidableEq

namespace Loading

def resolve (driver : Driver) (l : Loading) (f : UniformFunction) : Loading :=
  if driver.exposes f.symbol then
    { table := ⟨l.table.loaded ++ [f]⟩
      lookups := l.lookups ++ [f.symbol]
      logs := l.logs }
  else
    { table := l.table
      lookups := l.lookups ++ [f.symbol]
      logs := l.logs ++ [.functionUnavailable f] }

end Loading

def FunctionTable.load (driver : Driver) : Loading :=
  UniformFunction.extended.foldl (Loading.resolve driver) {}

/-- Looking up a list of functions keeps those that the driver exports, in order. -/
theorem Loading.foldl_resolve (driver : Driver) (l : Loading) (fs : List UniformFunction) :
    fs.foldl (resolve driver) l =
      { table := ⟨l.table.loaded ++ fs.filter fun f => driver.exposes f.symbol⟩
        lookups := l.lookups ++ fs.map UniformFunction.symbol
        logs := l.logs ++
          (fs.filter fun f => !driver.exposes f.symbol).map .functionUnavailable } := by
  induction fs generalizing l with
  | nil => simp
  | cons f rest ih =>
      rw [List.foldl_cons, ih]
      by_cases h : driver.exposes f.symbol = true
      · simp [resolve, h]
      · simp [resolve, h]

theorem FunctionTable.load_eq (driver : Driver) :
    load driver =
      { table := ⟨UniformFunction.extended.filter fun f => driver.exposes f.symbol⟩
        lookups := UniformFunction.extended.map UniformFunction.symbol
        logs := (UniformFunction.extended.filter fun f => !driver.exposes f.symbol).map
          .functionUnavailable } := by
  unfold load
  rw [Loading.foldl_resolve]
  rfl

end ShaderUniforms
