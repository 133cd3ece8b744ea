import ShaderUniforms.Native.Reading
import ShaderUniforms.Proofs.Gl.Availability

/-!
# Optional functions

The optional functions show in five places: what is asked of the driver when a
table is loaded, what is logged then, which symbols can be required, what an
upload does, and whether doubles are supported.  All five follow from the
driver alone, symbol by symbol, for a table on its own and for the table inside
a new context.
-/

namespace ShaderUniforms

namespace UniformFunction

/-- The symbols of the optional functions, in the order in which they are looked up. -/
def optionalSymbols : List String :=
  ["glUniform1d",
    "glUniform2dv",
    "glUniform3dv",
    "glUniform4dv",
    "glUniformMatrix2x3fv",
    "glUniformMatrix2x4fv",
    "glUniformMatrix3x2fv",
    "glUniformMatrix3x4fv",
    "glUniformMatrix4x2fv",
    "glUniformMatrix4x3fv",
    "glUniformMatrix2dv",
    "glUniformMatrix3dv",
    "glUniformMatrix4dv",
    "glUniformMatrix2x3dv",
    "glUniformMatrix2x4dv",
    "glUniformMatrix3x2dv",
    "glUniformMatrix3x4dv",
    "glUniformMatrix4x2dv",
    "glUniformMatrix4x3dv"]

/-- The symbols of the functions that take double precision. -/
def doubleSymbols : List String :=
  ["glUniform1d",
    "glUniform2dv",
    "glUniform3dv",
    "glUniform4dv",
    "glUniformMatrix2dv",
    "glUniformMatrix3dv",
    "glUniformMatrix4dv",
    "glUniformMatrix2x3dv",
    "glUniformMatrix2x4dv",
    "glUniformMatrix3x2dv",
    "glUniformMatrix3x4dv",
    "glUniformMatrix4x2dv",
    "glUniformMatrix4x3dv"]

theorem map_symbol_extended : extended.map symbol = optionalSymbols := by
  decide

theorem map_symbol_doublePrecision : doublePrecision.map symbol = doubleSymbols := by
  decide

theorem optionalSymbols_nodup : optionalSymbols.Nodup := by
  decide

theorem symbol_mem_optionalSymbols_iff {f : UniformFunction} :
    f.symbol ∈ optionalSymbols <-> f ∈ extended := by
  rw [<- map_symbol_extended]
  constructor
  · intro h
    rcases List.mem_map.mp h with ⟨g, hg, hsymbol⟩
    rw [<- symbol_injective hsymbol]
    exact hg
  · intro h
    exact List.mem_map.mpr ⟨f, h, rfl⟩

end UniformFunction

/-- With these settings, a new context can call the upload function of the symbol. -/
def Settings.OffersSymbol (settings : Settings) (exposes : String -> Bool) (symbol : String) :
    Prop :=
  exposes symbol = true ∧
    (symbol ∈ UniformFunction.optionalSymbols -> settings.loadExtended = true)

instance (settings : Settings) (exposes : String -> Bool) (symbol : String) :
    Decidable (settings.OffersSymbol exposes symbol) :=
  inferInstanceAs (Decidable (_ ∧ _))

theorem Settings.offersSymbol_iff {settings : Settings} {exposes : String -> Bool}
    {f : UniformFunction} :
    settings.OffersSymbol exposes f.symbol <-> settings.Offers exposes f := by
  unfold OffersSymbol Offers
  rw [UniformFunction.symbol_mem_optionalSymbols_iff]

/-!
## Requiring a symbol
-/

namespace FunctionTable

variable {table : FunctionTable} {driver : Driver}

theorem any_symbol_iff {s : String} :
    (table.loaded.any fun f => f.symbol == s) = true <->
      exists f, f ∈ table.loaded ∧ f.symbol = s := by
  simp [List.any_eq_true]

theorem require_eq_ok_iff {s : String} :
    table.require s = .ok () <-> exists f, f ∈ table.loaded ∧ f.symbol = s := by
  rw [<- any_symbol_iff]
  unfold require
  by_cases hany : (table.loaded.any fun f => f.symbol == s) = true
  · rw [if_pos hany]
    exact ⟨fun _ => hany, fun _ => rfl⟩
  · rw [if_neg hany]
    constructor
    · intro h
      cases h
    · intro h
      exact absurd h hany

theorem require_of_not_ok {s : String} (h : ¬ table.require s = .ok ()) :
    table.require s = .error (.missingFunction s) := by
  have hany : ¬ (table.loaded.any fun f => f.symbol == s) = true := by
    intro hany
    exact h (require_eq_ok_iff.mpr (any_symbol_iff.mp hany))
  exact if_neg hany

theorem require_symbol_iff {f : UniformFunction} :
    table.require f.symbol = .ok () <-> table.has f = true := by
  rw [require_eq_ok_iff, has_eq_true_iff]
  constructor
  · intro h
    rcases h with ⟨g, hg, hsymbol⟩
    -- The table compares symbols, and no two functions share one.
    rw [<- UniformFunction.symbol_injective hsymbol]
    exact hg
  · intro h
    exact ⟨f, h, rfl⟩

theorem require_load_iff {s : String} :
    (load driver).table.require s = .ok () <->
      s ∈ UniformFunction.optionalSymbols ∧ driver.exposes s = true := by
  rw [require_eq_ok_iff]
  constructor
  · intro h
    rcases h with ⟨f, hf, hsymbol⟩
    have hload := has_load_iff.mp (has_eq_true_iff.mpr hf)
    rw [<- hsymbol]
    exact ⟨UniformFunction.symbol_mem_optionalSymbols_iff.mpr hload.left, hload.right⟩
  · intro h
    rcases h with ⟨hmem, hexposes⟩
    rw [<- UniformFunction.map_symbol_extended] at hmem
    rcases List.mem_map.mp hmem with ⟨f, hf, hsymbol⟩
    exists f
    constructor
    · apply has_eq_true_iff.mp
      apply has_load_iff.mpr
      rw [hsymbol]
      exact ⟨hf, hexposes⟩
    · exact hsymbol

theorem supportsDouble_iff :
    table.supportsDouble = true <->
      forall s, s ∈ UniformFunction.doubleSymbols -> table.require s = .ok () := by
  unfold supportsDouble
  rw [List.all_eq_true, <- UniformFunction.map_symbol_doublePrecision]
  constructor
  · intro h s hs
    rcases List.mem_map.mp hs with ⟨f, hf, hsymbol⟩
    rw [<- hsymbol]
    exact require_symbol_iff.mpr (h f hf)
  · intro h f hf
    apply require_symbol_iff.mp
    exact h f.symbol (List.mem_map.mpr ⟨f, hf, rfl⟩)

theorem uniform_by_require (table : FunctionTable) (l : UniformLocation) (u : Upload) :
    (table.require u.function.symbol = .ok () ∧
      table.uniform l u = .call (u.toCall .divideThenCut l)) ∨
    (table.require u.function.symbol = .error (.missingFunction u.function.symbol) ∧
      table.uniform l u = .log (.uploadSkipped u.function)) := by
  by_cases hhas : table.has u.function = true
  · apply Or.inl
    exact ⟨require_symbol_iff.mpr hhas, uniform_of_has hhas l⟩
  · apply Or.inr
    constructor
    · apply require_of_not_ok
      intro hrequire
      exact hhas (require_symbol_iff.mp hrequire)
    · exact uniform_of_not_has (Bool.eq_false_iff.mpr hhas) l

end FunctionTable

/-!
## Agreement of all views
-/

/-- What can be learnt about the optional functions. -/
structure OptionalFunctions where
  /-- What was asked of the driver and logged in the beginning. -/
  loading : Loading
  require : String -> Except Error Unit
  uniform : UniformLocation -> Upload -> Outcome NativeCall Unit
  supportsDouble : Bool

namespace OptionalFunctions

/-- A table that has been loaded from the driver. -/
def ofTable (driver : Driver) : OptionalFunctions where
  loading := FunctionTable.load driver
  require := (FunctionTable.load driver).table.require
  uniform := (FunctionTable.load driver).table.uniform
  supportsDouble := (FunctionTable.load driver).table.supportsDouble

/-- A context created with the optional functions. -/
def ofContext (driver : Driver) : OptionalFunctions where
  loading := ({ loadExtended := true } : Settings).loading driver
  require := (Context.create driver { loadExtended := true }).require
  uniform := Surface.uniform (Context.create driver { loadExtended := true })
  supportsDouble := (Context.create driver { loadExtended := true }).supportsDouble

open UniformFunction in
/-- Everything agrees with the functions that a driver exports. -/
structure Agree (functions : OptionalFunctions) (exposes : String -> Bool) : Prop where
  lookups : functions.loading.lookups = optionalSymbols
  lookups_nodup : functions.loading.lookups.Nodup
  warnings :
    (functions.loading.logs.map fun event => (event.level, event.text)) =
      (optionalSymbols.filter fun s => !exposes s).map fun s =>
        (.warn, s ++ " is not available, uploads relying on it will be skipped")
  require_eq : forall s : String,
    functions.require s =
      if s ∈ optionalSymbols ∧ exposes s = true then .ok ()
      else .error (.missingFunction s)
  uniform_eq : forall s, s ∈ optionalSymbols ->
    forall (l : UniformLocation) (u : Upload), u.function.symbol = s ->
      (functions.require s = .ok () ∧
        exists call, functions.uniform l u = .call call ∧ call.symbol = s) ∨
      (functions.require s = .error (.missingFunction s) ∧
        exists event, functions.uniform l u = .log event ∧ event.level = .error ∧
          event.text =
            s ++ " is not available in the current GL context, uniform upload skipped")
  supportsDouble_iff :
    functions.supportsDouble = true <->
      forall s, s ∈ doubleSymbols -> functions.require s = .ok ()

theorem load_warnings (driver : Driver) :
    ((FunctionTable.load driver).logs.map fun event => (event.level, event.text)) =
      (UniformFunction.optionalSymbols.filter fun s => !driver.exposes s).map fun s =>
        (.warn, s ++ " is not available, uploads relying on it will be skipped") := by
  rw [FunctionTable.load_eq, <- UniformFunction.map_symbol_extended, List.filter_map,
    List.map_map, List.map_map]
  rfl

theorem require_load_eq (driver : Driver) (s : String) :
    (FunctionTable.load driver).table.require s =
      if s ∈ UniformFunction.optionalSymbols ∧ driver.exposes s = true then .ok ()
      else .error (.missingFunction s) := by
  by_cases h : s ∈ UniformFunction.optionalSymbols ∧ driver.exposes s = true
  · rw [if_pos h]
    exact FunctionTable.require_load_iff.mpr h
  · rw [if_neg h]
    apply FunctionTable.require_of_not_ok
    intro hrequire
    exact h (FunctionTable.require_load_iff.mp hrequire)

theorem agree_ofTable (driver : Driver) : (ofTable driver).Agree driver.exposes where
  lookups := by
    show (FunctionTable.load driver).lookups = _
    rw [FunctionTable.load_eq]
    exact UniformFunction.map_symbol_extended
  lookups_nodup := by
    show (FunctionTable.load driver).lookups.Nodup
    rw [FunctionTable.load_eq, UniformFunction.map_symbol_extended]
    exact UniformFunction.optionalSymbols_nodup
  warnings := load_warnings driver
  require_eq := require_load_eq driver
  uniform_eq := by
    intro s _ l u hsymbol
    rw [<- hsymbol]
    rcases (FunctionTable.load driver).table.uniform_by_require l u with
      ⟨hrequire, huniform⟩ | ⟨hrequire, huniform⟩
    · apply Or.inl
      exact ⟨hrequire, _, huniform, u.symbol_toCall .divideThenCut l⟩
    · apply Or.inr
      exact ⟨hrequire, _, huniform, rfl, rfl⟩
  supportsDouble_iff := FunctionTable.supportsDouble_iff

theorem uniform_ofContext {driver : Driver} {u : Upload}
    (hextended : u.function ∈ UniformFunction.extended) (l : UniformLocation) :
    (ofContext driver).uniform l u = (ofTable driver).uniform l u := by
  show Context.uniform _ l u = _
  unfold Context.uniform
  rw [if_pos (UniformFunction.mem_extended_iff.mp hextended)]
  rfl

/-- All views of the optional functions agree, on a table and on a context. -/
theorem agree_ofTable_and_ofContext (driver : Driver) :
    (ofTable driver).Agree driver.exposes ∧ (ofContext driver).Agree driver.exposes := by
  have htable := agree_ofTable driver
  constructor
  · exact htable
  · refine
      { lookups := htable.lookups
        lookups_nodup := htable.lookups_nodup
        warnings := htable.warnings
        require_eq := htable.require_eq
        uniform_eq := ?_
        supportsDouble_iff := htable.supportsDouble_iff }
    intro s hs l u hsymbol
    have hextended : u.function ∈ UniformFunction.extended := by
      apply UniformFunction.symbol_mem_optionalSymbols_iff.mp
      rw [hsymbol]
      exact hs
    rw [uniform_ofContext hextended]
    exact htable.uniform_eq s hs l u hsymbol

end OptionalFunctions

end ShaderUniforms
