import ShaderUniforms.Gl.Context
import ShaderUniforms.Proofs.Native.Counts

/-!
# Functions a context offers

Whether an upload gets through depends on the driver, which exports the
function or not, and for the optional functions also on the settings, by which
they are looked up or not.  This module reduces the two ways in which a context
finds its functions to that one condition.  Later arguments about uploads start
from the three equations at its end.
-/

namespace ShaderUniforms

/-- The driver exports every function that a context calls. -/
def Driver.Complete (driver : Driver) : Prop :=
  forall f : NativeFunction, driver.exposes f.symbol = true

theorem Driver.ofTables_complete (programs : List LinkedProgram) :
    (Driver.ofTables [] programs).Complete := by
  intro f
  have hknown : f.symbol ∈ knownSymbols := by
    apply List.mem_append.mpr
    apply Or.inl
    exact List.mem_map.mpr ⟨f, f.mem_all, rfl⟩
  simp [ofTables, hknown]

/-- How items are counted for the function: here if it is optional, or else by the binding. -/
def Driver.countRule (driver : Driver) (f : UniformFunction) : CountRule :=
  if f.isExtended then .divideThenCut else driver.binding.count

theorem Driver.countRule_exact (driver : Driver) (f : UniformFunction) :
    (driver.countRule f).Exact := by
  unfold countRule
  by_cases hextended : f.isExtended = true
  · rw [if_pos hextended]
    exact CountRule.divideThenCut_exact
  · rw [if_neg hextended]
    exact driver.binding.count_exact

namespace Settings

/-- With these settings, a new context can upload through the function. -/
def Offers (settings : Settings) (exposes : String -> Bool) (f : UniformFunction) : Prop :=
  exposes f.symbol = true ∧
    (f ∈ UniformFunction.extended -> settings.loadExtended = true)

instance (settings : Settings) (exposes : String -> Bool) (f : UniformFunction) :
    Decidable (settings.Offers exposes f) :=
  inferInstanceAs (Decidable (_ ∧ _))

theorem offers_of_complete {driver : Driver} (hdriver : driver.Complete)
    (f : UniformFunction) :
    ({ loadExtended := true } : Settings).Offers driver.exposes f := by
  constructor
  · exact hdriver (.uniform f)
  · intro _
    rfl

end Settings

/-!
## What a new context has found
-/

theorem FunctionTable.has_load_iff {driver : Driver} {f : UniformFunction} :
    (load driver).table.has f = true <->
      f ∈ UniformFunction.extended ∧ driver.exposes f.symbol = true := by
  rw [has_eq_true_iff, load_eq]
  exact List.mem_filter

namespace Context

variable {driver : Driver} {settings : Settings}

theorem has_create_iff {f : UniformFunction} (hextended : f ∈ UniformFunction.extended) :
    (create driver settings).table.has f = true <-> settings.Offers driver.exposes f := by
  show (settings.loading driver).table.has f = true <-> _
  unfold Settings.loading
  by_cases hload : settings.loadExtended = true
  · rw [if_pos hload, FunctionTable.has_load_iff]
    constructor
    · intro h
      exact ⟨h.right, fun _ => hload⟩
    · intro h
      exact ⟨hextended, h.left⟩
  · rw [if_neg hload]
    constructor
    · intro h
      exact absurd (FunctionTable.has_eq_true_iff.mp h) List.not_mem_nil
    · intro h
      exact absurd (h.right hextended) hload

/-!
## The three ways an upload ends
-/

theorem uniform_create_of_offers {u : Upload}
    (hoffers : settings.Offers driver.exposes u.function) (l : UniformLocation) :
    (create driver settings).uniform l u = .call (u.toCall (driver.countRule u.function) l) := by
  unfold uniform Driver.countRule
  by_cases hextended : u.function.isExtended = true
  · have hmem : u.function ∈ UniformFunction.extended :=
      UniformFunction.mem_extended_iff.mpr hextended
    rw [if_pos hextended, if_pos hextended]
    exact FunctionTable.uniform_of_has ((has_create_iff hmem).mpr hoffers) l
  · rw [if_neg hextended, if_neg hextended]
    apply issue_of_exposes
    show driver.exposes (u.toCall driver.binding.count l).symbol = true
    rw [Upload.symbol_toCall]
    exact hoffers.left

theorem uniform_create_of_skipped {u : Upload}
    (hextended : u.function ∈ UniformFunction.extended)
    (hoffers : ¬ settings.Offers driver.exposes u.function) (l : UniformLocation) :
    (create driver settings).uniform l u = .log (.uploadSkipped u.function) := by
  unfold uniform
  rw [if_pos (UniformFunction.mem_extended_iff.mp hextended)]
  apply FunctionTable.uniform_of_not_has
  apply Bool.eq_false_iff.mpr
  intro hhas
  exact hoffers ((has_create_iff hextended).mp hhas)

theorem uniform_create_of_aborted {u : Upload}
    (hcore : u.function ∉ UniformFunction.extended)
    (hoffers : ¬ settings.Offers driver.exposes u.function) (l : UniformLocation) :
    (create driver settings).uniform l u =
      .fail (.aborted (.notLoaded (.uniform u.function))) := by
  have hextended : ¬ u.function.isExtended = true := by
    intro h
    exact hcore (UniformFunction.mem_extended_iff.mpr h)
  -- The settings do not matter here, so it is the driver that lacks the function.
  have hhidden : driver.exposes (u.toCall driver.binding.count l).symbol = false := by
    rw [Upload.symbol_toCall]
    apply Bool.eq_false_iff.mpr
    intro hexposes
    exact hoffers ⟨hexposes, fun h => absurd h hcore⟩
  unfold uniform
  rw [if_neg hextended, issue_of_not_exposes hhidden, Upload.function_toCall]

theorem uniform_create_eq (driver : Driver) (settings : Settings) (l : UniformLocation)
    (u : Upload) :
    (create driver settings).uniform l u =
      if settings.Offers driver.exposes u.function then
        .call (u.toCall (driver.countRule u.function) l)
      else if u.function ∈ UniformFunction.extended then
        .log (.uploadSkipped u.function)
      else .fail (.aborted (.notLoaded (.uniform u.function))) := by
  by_cases hoffers : settings.Offers driver.exposes u.function
  · rw [if_pos hoffers, uniform_create_of_offers hoffers]
  · rw [if_neg hoffers]
    by_cases hextended : u.function ∈ UniformFunction.extended
    · rw [if_pos hextended, uniform_create_of_skipped hextended hoffers]
    · rw [if_neg hextended, uniform_create_of_aborted hextended hoffers]

end Context

end ShaderUniforms
