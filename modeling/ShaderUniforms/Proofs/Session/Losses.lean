import ShaderUniforms.Proofs.Gl.Hiding
import ShaderUniforms.Proofs.Session.Runs

/-!
# Sessions with fewer functions

The same session is held twice, and the second time the driver hides more of its
functions.  Step by step, calls are lost and none is gained, and whatever
changes is reported by the step that it changes, under the symbol of a function
that was lost.

Most steps make one call at most, so that exactly the calls to hidden functions
are lost.  A uniform that is set by name may need a look-up first, and without
the look-up it is not uploaded either.
-/

namespace ShaderUniforms

/-!
## Kinds of steps
-/

namespace ContextStep

/-- A step whose reply tells which functions there are. -/
def asksAvailability : ContextStep -> Bool
  | require _ => true
  | supportsDouble => true
  | lookup _ => true
  | _ => false

end ContextStep

/-!
## One call at most
-/

namespace Outcome

variable {kappa alpha beta : Type}

theorem calls_bind_of_no_calls {o : Outcome kappa alpha} (hfirst : o.calls = [])
    {next : alpha -> Outcome kappa beta} {n : Nat}
    (hnext : forall x, (next x).calls.length ≤ n) : (o >>= next).calls.length ≤ n := by
  cases hresult : o.result with
  | error e =>
      rw [bind_eq_of_error hresult, hfirst]
      exact Nat.zero_le n
  | ok x =>
      rw [bind_eq_of_ok hresult, hfirst, List.nil_append]
      exact hnext x

end Outcome

namespace Context

variable (context : Context)

theorem length_calls_uniform_le (l : UniformLocation) (u : Upload) :
    (context.uniform l u).calls.length ≤ 1 := by
  rcases context.uniform_callsAtMost l u with ⟨rule, hcalls⟩
  exact hcalls.length_le

theorem length_calls_bind_le (t : Texture) :
    (Surface.bind context t).calls.length ≤ 1 := by
  unfold Surface.bind
  apply Outcome.calls_bind_of_no_calls
  · rfl
  · intro _
    exact (context.issue_callsAtMost _).length_le

theorem length_calls_bindRaw_le (raw id : UInt32) :
    (Surface.bindRaw context raw id).calls.length ≤ 1 := by
  unfold Surface.bindRaw
  apply Outcome.calls_bind_of_no_calls
  · exact Outcome.calls_ofExcept (Texture.ofConst raw id)
  · exact context.length_calls_bind_le

/-- A shader without a program makes no call to find a name. -/
theorem length_calls_setUniform_le {shader : ShaderTable} (hprogram : shader.program = 0)
    (name : String) (v : UniformValue) :
    ((shader.onContext context).setUniform name v).calls.length ≤ 1 := by
  unfold Shader.setUniform
  apply Outcome.calls_bind_of_no_calls
  · rw [ShaderTable.locate_onContext_of_eq_zero hprogram]
  · intro l
    by_cases hfound : l.isFound = true
    · rw [if_pos hfound]
      exact context.length_calls_uniform_le l v.toUpload
    · rw [if_neg hfound]
      exact Nat.zero_le 1

end Context

theorem SurfaceStep.length_calls_act_le (context : Context) {shader : ShaderTable}
    {x : SurfaceStep}
    (hname : (ContextStep.surface x).setsByName = true -> shader.program = 0) :
    (x.act (shader.onContext context)).calls.length ≤ 1 := by
  cases x with
  | setUniform l v =>
      show (Surface.setUniform context l v).calls.length ≤ 1
      unfold Surface.setUniform
      by_cases hfound : l.isFound = true
      · rw [if_pos hfound]
        exact context.length_calls_uniform_le l v.toUpload
      · rw [if_neg hfound]
        exact Nat.zero_le 1
  | upload l v => exact context.length_calls_uniform_le l v.toUpload
  | native l u => exact context.length_calls_uniform_le l u
  | bind t => exact context.length_calls_bind_le t
  | bindRaw raw id => exact context.length_calls_bindRaw_le raw id
  | bindDirect t id => exact (context.issue_callsAtMost _).length_le
  | shaderSet name v => exact context.length_calls_setUniform_le (hname rfl) name v
  | shaderTransform m =>
      exact context.length_calls_setUniform_le (hname rfl) Shader.transformName _
  | shaderPass => exact Nat.zero_le 1
  | shaderUse => exact (context.issue_callsAtMost _).length_le

theorem ContextStep.length_calls_perform_le {b : ShadedContext} {x : ContextStep}
    (hname : x.setsByName = true -> b.shader.program = 0) :
    (x.perform b).calls.length ≤ 1 := by
  rcases x.surface_or_callsAtMost b with ⟨y, rfl⟩ | ⟨c, _, hcalls⟩
  · show (y.act (b.shader.onContext b.context) >>= fun _ => pure Reply.done).calls.length ≤ 1
    rw [Outcome.calls_bind_pure]
    exact SurfaceStep.length_calls_act_le b.context hname
  · exact hcalls.length_le

/-!
## What remains of a step
-/

section Hiding

variable {hidden more : List String} (hsubset : hidden ⊆ more) (driver : Driver)
  (settings : Settings) (shader : ShaderTable)

include hsubset

theorem ShaderTable.onContext_remains :
    Shader.Related (fun _ => Outcome.Remains hidden more)
      (shader.onContext (.create (driver.hide hidden) settings))
      (shader.onContext (.create (driver.hide more) settings)) where
  program_eq := rfl
  bindTexture := by
    intro t id
    exact Context.issue_remains hsubset driver settings (.bindTexture t.glConst id)
  locate := by
    intro name
    by_cases hprogram : shader.program = 0
    · rw [locate_onContext_of_eq_zero hprogram, locate_onContext_of_eq_zero hprogram]
      exact .refl_of_no_calls rfl
    · rw [locate_onContext_of_ne_zero hprogram, locate_onContext_of_ne_zero hprogram]
      exact Context.locate_remains hsubset driver settings .uniform _ name

theorem ContextStep.perform_remains {x : ContextStep} (hx : x.asksAvailability = false) :
    (x.perform ⟨.create (driver.hide hidden) settings, shader⟩).Remains hidden more
      (x.perform ⟨.create (driver.hide more) settings, shader⟩) := by
  have hR := Outcome.Remains.compositional hidden more
  have hshader := ShaderTable.onContext_remains hsubset driver settings shader
  cases x with
  | surface y =>
      apply y.perform_related hR hshader
      · intro l u _
        exact Context.uniform_remains hsubset driver settings l u
      · intro _
        exact Context.useProgram_remains hsubset driver settings _
  | useProgram p =>
      apply hR.of_bind
      · exact Context.useProgram_remains hsubset driver settings p
      · intro _ _
        exact hR.of_pure Reply.done
  | locate k p name =>
      apply hR.of_bind
      · exact Context.locate_remains hsubset driver settings k p name
      · intro l _
        exact hR.of_pure (Reply.location k l)
  | require symbol => cases hx
  | supportsDouble => cases hx
  | clone => exact hR.of_pure Reply.done
  | resume n => exact hR.of_pure Reply.done
  | lookup symbol => cases hx

end Hiding

/-!
## Transcripts
-/

namespace Transcript

/--
Where more functions are hidden, each step makes some of its calls and no
others; unless the driver resolves a name in it, it makes just those calls whose
function is not hidden.  A step that goes differently reports a function that
was not hidden before.
-/
theorem answers_hide_remain {hidden more : List String} (hsubset : hidden ⊆ more)
    (driver : Driver) (settings : Settings) (shader : ShaderTable)
    {steps : List ContextStep}
    (hsteps : forall x, x ∈ steps -> x.asksAvailability = false) {i : Nat}
    {x : ContextStep} (hx : steps[i]? = some x) :
    exists before after,
      (ofContext (driver.hide hidden) settings shader steps).answers[i]? = some before ∧
      (ofContext (driver.hide more) settings shader steps).answers[i]? = some after ∧
      after.calls.Sublist before.calls ∧
      ((x.setsByName = true -> shader.program = 0) ->
        after.calls = before.calls.filter fun c => c.symbol ∉ more) ∧
      (after ≠ before ->
        exists symbol, symbol ∈ more ∧ symbol ∉ hidden ∧ after.Reports symbol) := by
  have hmem : x ∈ steps := List.mem_of_getElem? hx
  have hremains := ContextStep.perform_remains hsubset driver settings shader (hsteps x hmem)
  refine ⟨_, _, getElem?_answers_ofContext _ _ _ hx, getElem?_answers_ofContext _ _ _ hx,
    ?_, ?_, ?_⟩
  · exact hremains.calls_sublist
  · intro hname
    exact hremains.calls_eq_filter (ContextStep.length_calls_perform_le hname)
  · exact hremains.reports

/-- A value that is set by name, then one in double precision, and a texture. -/
def mixedSession : List ContextStep :=
  [.surface (.shaderSet "offset" (.vector (.num .float) .three #v[⟨1⟩, ⟨2⟩, ⟨3⟩])),
    .surface (.setUniform ⟨3⟩ (.scalar (.num .double) ⟨7⟩)),
    .surface (.bindRaw 0x0DE1 42)]

/-- The program in which the name of the session is found. -/
def offsetProgram : LinkedProgram :=
  { id := 5, uniforms := [("offset", 2)], attributes := [] }

theorem answers_hide_remain_lookup :
    ["glUniform1d"] ⊆ ["glGetUniformLocation", "glUniform1d"] ∧
    (forall x, x ∈ mixedSession -> x.asksAvailability = false) ∧
    exists before after,
      (ofContext (Driver.ofTables ["glUniform1d"] [offsetProgram]) {}
        { program := 5 } mixedSession).answers[0]? = some before ∧
      (ofContext (Driver.ofTables ["glGetUniformLocation", "glUniform1d"] [offsetProgram]) {}
        { program := 5 } mixedSession).answers[0]? = some after ∧
      after.calls.Sublist before.calls ∧
      (after ≠ before ->
        exists symbol, symbol ∈ ["glGetUniformLocation", "glUniform1d"] ∧
          symbol ∉ ["glUniform1d"] ∧ after.Reports symbol) := by
  have hsubset : ["glUniform1d"] ⊆ ["glGetUniformLocation", "glUniform1d"] := by
    decide
  have hsteps : forall x, x ∈ mixedSession -> x.asksAvailability = false := by
    decide
  rw [Driver.ofTables_eq_hide ["glUniform1d"],
    Driver.ofTables_eq_hide ["glGetUniformLocation", "glUniform1d"]]
  rcases answers_hide_remain hsubset (Driver.ofTables [] [offsetProgram]) {} { program := 5 }
    hsteps (rfl : mixedSession[0]? = some _) with
    ⟨before, after, hbefore, hafter, hsublist, _, hreports⟩
  exact ⟨hsubset, hsteps, before, after, hbefore, hafter, hsublist, hreports⟩

end Transcript

end ShaderUniforms
