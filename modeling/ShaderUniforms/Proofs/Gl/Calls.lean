import ShaderUniforms.Program.Shader

/-!
# Calls of single operations

An operation on a context makes one call at most, and it is known which one.  An
upload makes its own call or none.  A look-up either aborts, and then it has
called nothing, or it asks the driver once and returns what the driver's answer
stands for.  A shader on the context looks up its uniforms in this way if it has
a program, and otherwise in its own table.
-/

namespace ShaderUniforms

/-!
## One call or none
-/

namespace Outcome

variable {kappa alpha beta : Type} {o : Outcome kappa alpha} {c : kappa}

theorem calls_bind_pure (o : Outcome kappa alpha) (f : alpha -> beta) :
    (o >>= fun x => pure (f x)).calls = o.calls := by
  cases hresult : o.result with
  | error e => rw [bind_eq_of_error hresult]
  | ok x =>
      rw [bind_eq_of_ok hresult]
      exact List.append_nil o.calls

theorem calls_ofExcept (x : Except Error alpha) :
    (ofExcept x : Outcome kappa alpha).calls = [] := by
  cases x with
  | ok value => rfl
  | error e => rfl

/-- There is no call but the given one, and that one at most once. -/
def CallsAtMost (o : Outcome kappa alpha) (c : kappa) : Prop :=
  o.calls = [] ∨ o.calls = [c]

theorem CallsAtMost.eq_of_mem (h : o.CallsAtMost c) {d : kappa} (hd : d ∈ o.calls) :
    d = c := by
  rcases h with hnil | hone
  · rw [hnil] at hd
    exact absurd hd List.not_mem_nil
  · rw [hone] at hd
    exact List.mem_singleton.mp hd

theorem CallsAtMost.length_le (h : o.CallsAtMost c) : o.calls.length ≤ 1 := by
  rcases h with hnil | hone
  · rw [hnil]
    exact Nat.zero_le 1
  · rw [hone]
    exact Nat.le_refl 1

theorem CallsAtMost.bind_pure (h : o.CallsAtMost c) (f : alpha -> beta) :
    (o >>= fun x => pure (f x)).CallsAtMost c := by
  unfold CallsAtMost
  rw [calls_bind_pure]
  exact h

end Outcome

/-!
## Answers
-/

namespace Location

variable {k : Variable} {answer : Int32}

/-- The location that an answer of the driver stands for: every negative number means none. -/
def ofAnswer (answer : Int32) : Location k :=
  if answer < 0 then notFound else ⟨answer⟩

theorem ofAnswer_of_nonneg (h : 0 ≤ answer) : (ofAnswer answer : Location k) = ⟨answer⟩ :=
  if_neg (Int32.not_lt.mpr h)

theorem ofAnswer_of_neg (h : answer < 0) : (ofAnswer answer : Location k) = notFound :=
  if_pos h

/-- Whichever binding turns the answer into an index, the location is the same. -/
theorem ofIndex?_index? (binding : Binding) (answer : Int32) :
    (ofIndex? (binding.index? answer) : Location k) = ofAnswer answer := by
  by_cases hnegative : answer < 0
  · rw [binding.index?_of_neg hnegative, ofAnswer_of_neg hnegative]
    rfl
  · have hnonneg : 0 ≤ answer := Int32.not_lt.mp hnegative
    rw [binding.index?_of_nonneg hnonneg, ofAnswer_of_nonneg hnonneg]
    show (⟨answer.toUInt32.toInt32⟩ : Location k) = ⟨answer⟩
    rw [Int32.toInt32_toUInt32]

theorem isFound_ofAnswer_iff : (ofAnswer answer : Location k).isFound = true <-> 0 ≤ answer := by
  constructor
  · intro hfound
    apply Int32.not_lt.mp
    intro hnegative
    rw [ofAnswer_of_neg hnegative] at hfound
    cases hfound
  · intro hnonneg
    rw [ofAnswer_of_nonneg hnonneg, isFound_eq_true_iff]
    intro h
    cases h
    revert hnonneg
    decide

/-- An answer that is taken for a location is not a negative number. -/
theorem value_ofAnswer_nonneg (hfound : (ofAnswer answer : Location k).isFound = true) :
    0 ≤ (ofAnswer answer : Location k).value := by
  have hnonneg : 0 ≤ answer := isFound_ofAnswer_iff.mp hfound
  rw [ofAnswer_of_nonneg hnonneg]
  exact hnonneg

end Location

/-!
## Operations on a context
-/

namespace Context

theorem issue_callsAtMost (context : Context) (c : NativeCall) :
    (context.issue c).CallsAtMost c := by
  cases hexposes : context.driver.exposes c.symbol with
  | true =>
      rw [issue_of_exposes hexposes]
      exact Or.inr rfl
  | false =>
      rw [issue_of_not_exposes hexposes]
      exact Or.inl rfl

theorem uniform_callsAtMost (context : Context) (l : UniformLocation) (u : Upload) :
    exists rule, (context.uniform l u).CallsAtMost (u.toCall rule l) := by
  unfold uniform
  by_cases hextended : u.function.isExtended = true
  · rw [if_pos hextended]
    exists .divideThenCut
    cases hhas : context.table.has u.function with
    | true =>
        rw [FunctionTable.uniform_of_has hhas]
        exact Or.inr rfl
    | false =>
        rw [FunctionTable.uniform_of_not_has hhas]
        exact Or.inl rfl
  · rw [if_neg hextended]
    exists context.driver.binding.count
    exact context.issue_callsAtMost (u.toCall context.driver.binding.count l)

section Lookups

variable {context : Context} {k : Variable} {p : Program} {name : String}

theorem checkName_of_nul {position : Nat} (hnul : nulPosition? name = some position) :
    context.checkName name = .fail (.aborted (.nulInName position (nameBytes name))) := by
  unfold checkName
  rw [context.driver.binding.checkName_of_nul hnul]

theorem checkName_of_no_nul (hnul : nulPosition? name = none) :
    context.checkName name = pure () := by
  unfold checkName
  rw [context.driver.binding.checkName_of_no_nul hnul]

theorem locate_of_nul {position : Nat} (hnul : nulPosition? name = some position) :
    context.locate k p name =
      .fail (.aborted (.nulInName position (nameBytes name))) := by
  unfold locate locateIndex
  rw [checkName_of_nul hnul]
  rfl

theorem locate_of_no_nul (hnul : nulPosition? name = none) :
    context.locate k p name = (do
      context.issue (.getLocation k p.id name)
      pure (.ofAnswer (context.driver.locate k p.id name))) := by
  have hanswer := Location.ofIndex?_index? (k := k) context.driver.binding
    (context.driver.locate k p.id name)
  unfold locate locateIndex
  rw [checkName_of_no_nul hnul, <- hanswer]
  cases hexposes : context.driver.exposes (NativeCall.getLocation k p.id name).symbol with
  | true =>
      rw [issue_of_exposes hexposes]
      rfl
  | false =>
      rw [issue_of_not_exposes hexposes]
      rfl

theorem locate_of_exposes (hnul : nulPosition? name = none)
    (hexposes : context.driver.exposes (NativeFunction.getLocation k).symbol = true) :
    context.locate k p name =
      { result := .ok (.ofAnswer (context.driver.locate k p.id name))
        calls := [.getLocation k p.id name] } := by
  have hcall : context.driver.exposes
      (NativeCall.getLocation k p.id name).symbol = true := hexposes
  rw [locate_of_no_nul hnul, issue_of_exposes hcall, Outcome.call_bind]
  rfl

theorem locate_of_not_exposes (hnul : nulPosition? name = none)
    (hhidden : context.driver.exposes (NativeFunction.getLocation k).symbol = false) :
    context.locate k p name = .fail (.aborted (.notLoaded (.getLocation k))) := by
  have hcall : context.driver.exposes
      (NativeCall.getLocation k p.id name).symbol = false := hhidden
  rw [locate_of_no_nul hnul, issue_of_not_exposes hcall]
  rfl

/-- A look-up aborts without a call, or it asks once and returns what the answer means. -/
theorem locate_cases (context : Context) (k : Variable) (p : Program) (name : String) :
    (exists fault : Fault, context.locate k p name = .fail (.aborted fault)) ∨
      context.locate k p name =
        { result := .ok (.ofAnswer (context.driver.locate k p.id name))
          calls := [.getLocation k p.id name] } := by
  cases hnul : nulPosition? name with
  | some position => exact Or.inl ⟨_, locate_of_nul hnul⟩
  | none =>
      cases hexposes : context.driver.exposes (NativeFunction.getLocation k).symbol with
      | true => exact Or.inr (locate_of_exposes hnul hexposes)
      | false => exact Or.inl ⟨_, locate_of_not_exposes hnul hexposes⟩

theorem locate_callsAtMost (context : Context) (k : Variable) (p : Program)
    (name : String) : (context.locate k p name).CallsAtMost (.getLocation k p.id name) := by
  rcases context.locate_cases k p name with ⟨fault, hlocate⟩ | hlocate
  · rw [hlocate]
    exact Or.inl rfl
  · rw [hlocate]
    exact Or.inr rfl

theorem eq_ofAnswer_of_locate {l : Location k}
    (hl : (context.locate k p name).result = .ok l) :
    l = .ofAnswer (context.driver.locate k p.id name) := by
  rcases context.locate_cases k p name with ⟨fault, hlocate⟩ | hlocate
  · rw [hlocate] at hl
    cases hl
  · rw [hlocate] at hl
    cases hl
    rfl

end Lookups

end Context

/-!
## Shaders on a context
-/

namespace ShaderTable

variable {shader : ShaderTable}

theorem locate_onContext_of_eq_zero (hprogram : shader.program = 0) (context : Context)
    (name : String) :
    (shader.onContext context).locate name = { result := .ok (shader.locationOf name) } := by
  have hid : Program.ofId? shader.program = none :=
    Program.ofId?_eq_none_iff.mpr hprogram
  simp only [onContext, hid]
  rfl

theorem locate_onContext_of_ne_zero (hprogram : shader.program ≠ 0) (context : Context)
    (name : String) :
    (shader.onContext context).locate name =
      context.locate .uniform ⟨shader.program, hprogram⟩ name := by
  have hid : Program.ofId? shader.program = some ⟨shader.program, hprogram⟩ :=
    dif_neg hprogram
  simp only [onContext, hid]

/-- A shader's look-up fails in silence, or it succeeds with the one call that it may need. -/
theorem locate_onContext_cases (shader : ShaderTable) (context : Context) (name : String) :
    (exists e : Failure, (shader.onContext context).locate name = .fail e) ∨
      exists l : UniformLocation, (shader.onContext context).locate name =
        { result := .ok l
          calls := if shader.program = 0 then []
            else [.getLocation .uniform shader.program name] } := by
  by_cases hprogram : shader.program = 0
  · rw [locate_onContext_of_eq_zero hprogram, if_pos hprogram]
    exact Or.inr ⟨_, rfl⟩
  · rw [locate_onContext_of_ne_zero hprogram, if_neg hprogram]
    rcases context.locate_cases .uniform ⟨shader.program, hprogram⟩ name with
      ⟨fault, hlocate⟩ | hlocate
    · exact Or.inl ⟨_, hlocate⟩
    · exact Or.inr ⟨_, hlocate⟩

end ShaderTable

end ShaderUniforms
