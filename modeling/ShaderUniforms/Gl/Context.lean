import ShaderUniforms.Gl.FunctionTable
import ShaderUniforms.Surface.Basic

/-!
# Contexts

A context is a surface that calls the functions of a driver.  Most functions
are called through the binding, and calling one that the driver does not export
aborts the operation.  Uploads through an optional function go by the table that
was loaded when the context was created.

The binding loads its functions at the same time and from the same driver.  What it
asks for is its own affair: only the look-ups for the table are told of here.
-/

namespace ShaderUniforms

structure Settings where
  /-- Whether the optional functions are looked up when a context is created. -/
  loadExtended : Bool := true
  deriving DecidableEq

namespace Settings

def describe (s : Settings) : String :=
  let flag := if s.loadExtended then "true" else "false"
  s!"GlSettings \x7b load_extended_functions: {flag} \x7d"

/-- What the creation of a context looks up. -/
def loading (s : Settings) (driver : Driver) : Loading :=
  if s.loadExtended then FunctionTable.load driver else {}

end Settings

structure Context where
  driver : Driver
  settings : Settings
  table : FunctionTable

namespace Context

/-- A new context, with the table that the settings ask for. -/
def create (driver : Driver) (settings : Settings) : Context where
  driver := driver
  settings := settings
  table := (settings.loading driver).table

/-- A copy of a handle to the context. It stands for the same one, and nothing is loaded again. -/
def clone (context : Context) : Context :=
  context

/-- Calls a function that every driver is expected to export. -/
def issue (context : Context) (c : NativeCall) : Outcome NativeCall Unit :=
  context.driver.binding.issue context.driver.exposes c

theorem issue_of_exposes {context : Context} {c : NativeCall}
    (h : context.driver.exposes c.symbol = true) :
    context.issue c = .call c :=
  context.driver.binding.issue_of_exposes h

theorem issue_of_not_exposes {context : Context} {c : NativeCall}
    (h : context.driver.exposes c.symbol = false) :
    context.issue c = .fail (.aborted (.notLoaded c.function)) :=
  context.driver.binding.issue_of_not_exposes h

theorem issue_eq (context : Context) (c : NativeCall) :
    context.issue c =
      if context.driver.exposes c.symbol then .call c
      else .fail (.aborted (.notLoaded c.function)) := by
  cases h : context.driver.exposes c.symbol with
  | true => exact issue_of_exposes h
  | false => exact issue_of_not_exposes h

/-!
## Uploads and bindings
-/

def uniform (context : Context) (l : UniformLocation) (u : Upload) :
    Outcome NativeCall Unit :=
  if u.function.isExtended then context.table.uniform l u
  else context.issue (u.toCall context.driver.binding.count l)

def bindTexture (context : Context) (target : TextureTarget) (id : UInt32) :
    Outcome NativeCall Unit :=
  context.issue (.bindTexture target.glConst id)

instance : Surface Context NativeCall where
  uniform := uniform
  bindTexture := bindTexture

/-!
## Programs
-/

def useProgram (context : Context) (p : Option Program) : Outcome NativeCall Unit :=
  context.issue (.useProgram (p.elim 0 Program.id))

/-- Aborts on a name that cannot be passed to a driver. -/
def checkName (context : Context) (name : String) : Outcome NativeCall Unit :=
  match context.driver.binding.checkName name with
  | .error fault => .fail (.aborted fault)
  | .ok () => pure ()

/-- Asks the driver for an index under a name. -/
def locateIndex (context : Context) (k : Variable) (p : Program) (name : String) :
    Outcome NativeCall (Option UInt32) := do
  context.checkName name
  context.issue (.getLocation k p.id name)
  pure (context.driver.binding.index? (context.driver.locate k p.id name))

def locate (context : Context) (k : Variable) (p : Program) (name : String) :
    Outcome NativeCall (Location k) := do
  let index <- context.locateIndex k p name
  pure (.ofIndex? index)

/-!
## Optional functions
-/

def require (context : Context) (symbol : String) : Except Error Unit :=
  context.table.require symbol

def supportsDouble (context : Context) : Bool :=
  context.table.supportsDouble

end Context

end ShaderUniforms
