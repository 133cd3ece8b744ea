import ShaderUniforms.Proofs.Gl.Calls
import ShaderUniforms.Proofs.Session.Runs
import ShaderUniforms.Proofs.Session.Steps

/-!
# Locations of calls

Which locations can the calls of a session carry?  A call carries the location
of the upload that it makes, so the question is what a step may upload.  All
steps but two look first whether there is a location, and so never upload to
the one that stands for none.  A name that the driver resolves gives no negative
location at all.
-/

namespace ShaderUniforms

variable {gamma kappa : Type} [Surface gamma kappa]

/-!
## Calls of a composed operation
-/

namespace Outcome

theorem mem_calls_bind {alpha beta : Type} {o : Outcome kappa alpha}
    {next : alpha -> Outcome kappa beta} {c : kappa} (hc : c ∈ (o >>= next).calls) :
    c ∈ o.calls ∨ exists x, o.result = .ok x ∧ c ∈ (next x).calls := by
  cases hresult : o.result with
  | error e =>
      rw [bind_eq_of_error hresult] at hc
      exact Or.inl hc
  | ok x =>
      rw [bind_eq_of_ok hresult] at hc
      rcases List.mem_append.mp hc with hfirst | hnext
      · exact Or.inl hfirst
      · exact Or.inr ⟨x, rfl, hnext⟩

/-- Composition adds no calls of its own, so it keeps whatever holds of all calls. -/
theorem compositional_calls (P : kappa -> Prop) :
    Compositional fun alpha (o _ : Outcome kappa alpha) => forall c, c ∈ o.calls -> P c where
  of_pure := by
    intro _ _ c hc
    exact absurd hc List.not_mem_nil
  of_fail := by
    intro _ _ c hc
    exact absurd hc List.not_mem_nil
  of_log := by
    intro _ c hc
    exact absurd hc List.not_mem_nil
  of_bind := by
    intro _ _ o _ next _ hfirst hnext c hc
    rcases mem_calls_bind hc with hc | ⟨x, hx, hc⟩
    · exact hfirst c hc
    · exact hnext x hx c hc

end Outcome

/-!
## Locations come from uploads
-/

/-- Calls carry the location of the upload that makes them, and otherwise none. -/
structure Shader.CarriesLocations (location? : kappa -> Option Int32)
    (shader : Shader gamma kappa) : Prop where
  uniform : forall (l : UniformLocation) (u : Upload) (c : kappa),
    c ∈ (Surface.uniform shader.surface l u).calls -> location? c = some l.value
  bindTexture : forall (t : TextureTarget) (id : UInt32) (c : kappa),
    c ∈ (Surface.bindTexture shader.surface t id).calls -> location? c = none
  locate : forall (name : String) (c : kappa),
    c ∈ (shader.locate name).calls -> location? c = none
  activate : forall c : kappa, c ∈ shader.activate.calls -> location? c = none

theorem Shader.CarriesLocations.mayUpload {location? : kappa -> Option Int32}
    {shader : Shader gamma kappa} (h : shader.CarriesLocations location?)
    {x : SurfaceStep} {c : kappa} (hc : c ∈ (x.perform shader).calls) {k : Int32}
    (hk : location? c = some k) : exists u, x.MayUpload shader ⟨k⟩ u := by
  let P (c : kappa) : Prop := forall k, location? c = some k ->
    exists u, x.MayUpload shader ⟨k⟩ u
  have hnone : forall c, location? c = none -> P c := by
    intro c hlocation k hk
    rw [hlocation] at hk
    cases hk
  have hshader : Shader.Related
      (fun alpha (o _ : Outcome kappa alpha) => forall c, c ∈ o.calls -> P c)
      shader shader :=
    { program_eq := rfl
      bindTexture := fun t id c hc => hnone c (h.bindTexture t id c hc)
      locate := fun name c hc => hnone c (h.locate name c hc) }
  have hcalls : forall c, c ∈ (x.perform shader).calls -> P c := by
    apply SurfaceStep.perform_related (Outcome.compositional_calls P) hshader
    · intro l u hupload c hc k hk
      rw [h.uniform l u c hc] at hk
      cases hk
      exact ⟨u, hupload⟩
    · intro _ c hc
      exact hnone c (h.activate c hc)
  exact hcalls c hc k hk

/-!
## The two surfaces
-/

namespace ShaderTable

theorem onRecording_carriesLocations (shader : ShaderTable) (surface : Recording) :
    (shader.onRecording surface).CarriesLocations RecordedCall.location? where
  uniform := by
    intro l u c hc
    rw [List.mem_singleton.mp hc]
    rfl
  bindTexture := by
    intro t id c hc
    rw [List.mem_singleton.mp hc]
    rfl
  locate := by
    intro name c hc
    exact absurd hc List.not_mem_nil
  activate := by
    intro c hc
    exact absurd hc List.not_mem_nil

theorem onContext_carriesLocations (shader : ShaderTable) (context : Context) :
    (shader.onContext context).CarriesLocations NativeCall.location? where
  uniform := by
    intro l u c hc
    rcases context.uniform_callsAtMost l u with ⟨rule, hcalls⟩
    rw [hcalls.eq_of_mem hc]
    exact u.location?_toCall rule l
  bindTexture := by
    intro t id c hc
    rw [(context.issue_callsAtMost (.bindTexture t.glConst id)).eq_of_mem hc]
    rfl
  locate := by
    intro name c hc
    by_cases hprogram : shader.program = 0
    · rw [locate_onContext_of_eq_zero hprogram] at hc
      exact absurd hc List.not_mem_nil
    · rw [locate_onContext_of_ne_zero hprogram] at hc
      rw [(context.locate_callsAtMost .uniform _ name).eq_of_mem hc]
      rfl
  activate := by
    intro c hc
    rw [(context.issue_callsAtMost _).eq_of_mem hc]
    rfl

end ShaderTable

theorem ContextStep.mayUpload_of_mem_calls {b : ShadedContext} {x : ContextStep}
    {c : NativeCall} (hc : c ∈ (x.perform b).calls) {k : Int32}
    (hk : c.location? = some k) :
    exists y u, x = .surface y ∧
      y.MayUpload (b.shader.onContext b.context) ⟨k⟩ u := by
  rcases x.surface_or_callsAtMost b with ⟨y, rfl⟩ | ⟨d, hlocation, hcalls⟩
  · have hlocations := b.shader.onContext_carriesLocations b.context
    rcases hlocations.mayUpload hc hk with ⟨u, hupload⟩
    exact ⟨y, u, rfl, hupload⟩
  · rw [hcalls.eq_of_mem hc, hlocation] at hk
    cases hk

/-!
## Steps that look for a location first
-/

/-- A step that uploads only where it has found a location. -/
def SurfaceStep.checksLocation : SurfaceStep -> Bool
  | upload _ _ => false
  | native _ _ => false
  | _ => true

def ContextStep.checksLocation : ContextStep -> Bool
  | surface x => x.checksLocation
  | _ => true

omit [Surface gamma kappa] in
theorem SurfaceStep.MayUpload.isFound {shader : Shader gamma kappa} {x : SurfaceStep}
    {l : UniformLocation} {u : Upload} (h : x.MayUpload shader l u)
    (hx : x.checksLocation = true) : l.isFound = true := by
  cases h with
  | setUniform hfound v => exact hfound
  | upload l v => cases hx
  | native l u => cases hx
  | shaderSet hlocate hfound v => exact hfound
  | shaderTransform hlocate hfound m => exact hfound

omit [Surface gamma kappa] in
theorem SurfaceStep.MayUpload.value_ne {shader : Shader gamma kappa} {x : SurfaceStep}
    {k : Int32} {u : Upload} (h : x.MayUpload shader ⟨k⟩ u)
    (hx : x.checksLocation = true) : k ≠ -1 := by
  intro hk
  apply Location.isFound_eq_true_iff.mp (h.isFound hx)
  rw [hk]
  rfl

/-!
## Names that the driver resolves
-/

theorem ShaderTable.nonneg_of_locate {shader : ShaderTable} {context : Context}
    (hprogram : shader.program ≠ 0) {name : String} {l : UniformLocation}
    (hlocate : ((shader.onContext context).locate name).result = .ok l)
    (hfound : l.isFound = true) : 0 ≤ l.value := by
  rw [locate_onContext_of_ne_zero hprogram] at hlocate
  have hanswer := Context.eq_ofAnswer_of_locate hlocate
  rw [hanswer] at hfound ⊢
  exact Location.value_ofAnswer_nonneg hfound

theorem ContextStep.nonneg_of_mem_calls {b : ShadedContext} {x : ContextStep}
    (hprogram : b.shader.program ≠ 0) (hx : x.setsByName = true) {c : NativeCall}
    (hc : c ∈ (x.perform b).calls) {k : Int32} (hk : c.location? = some k) : 0 ≤ k := by
  rcases x.mayUpload_of_mem_calls hc hk with ⟨y, u, hsurface, hupload⟩
  rw [hsurface] at hx
  cases hupload with
  | setUniform hfound v => cases hx
  | upload l v => cases hx
  | native l u => cases hx
  | shaderSet hlocate hfound v =>
      exact ShaderTable.nonneg_of_locate hprogram hlocate hfound
  | shaderTransform hlocate hfound m =>
      exact ShaderTable.nonneg_of_locate hprogram hlocate hfound

/-!
## Sessions
-/

/--
In a session without unchecked uploads no call carries the location that stands
for none, on a context or on a recording surface.  Where the driver resolves
names, setting by name calls with no negative location, whatever the driver
answers.
-/
theorem Transcript.locations_of_calls (driver : Driver) (settings : Settings)
    (shader : ShaderTable) :
    (forall steps : List ContextStep, (forall x, x ∈ steps -> x.checksLocation = true) ->
      forall answer, answer ∈ (ofContext driver settings shader steps).answers ->
        forall call, call ∈ answer.calls -> call.location? ≠ some (-1)) ∧
    (forall steps : List SurfaceStep, (forall x, x ∈ steps -> x.checksLocation = true) ->
      forall answer, answer ∈ (ofRecording shader steps).answers ->
        forall call, call ∈ answer.calls -> call.location? ≠ some (-1)) ∧
    (shader.program ≠ 0 -> forall (steps : List ContextStep) (i : Nat) (x : ContextStep),
      steps[i]? = some x -> x.setsByName = true ->
        exists answer, (ofContext driver settings shader steps).answers[i]? = some answer ∧
          forall call, call ∈ answer.calls ->
            forall l, call.location? = some l -> 0 ≤ l) := by
  refine ⟨?_, ?_, ?_⟩
  · intro steps hsteps answer hanswer call hcall hlocation
    rw [answers_ofContext] at hanswer
    rcases List.mem_map.mp hanswer with ⟨x, hx, hperform⟩
    rw [<- hperform] at hcall
    rcases x.mayUpload_of_mem_calls hcall hlocation with ⟨y, u, hsurface, hupload⟩
    have hchecks := hsteps x hx
    rw [hsurface] at hchecks
    exact hupload.value_ne hchecks rfl
  · intro steps hsteps answer hanswer call hcall hlocation
    rw [answers_ofRecording] at hanswer
    rcases List.mem_map.mp hanswer with ⟨x, hx, hperform⟩
    rw [<- hperform] at hcall
    have hlocations := shader.onRecording_carriesLocations {}
    rcases hlocations.mayUpload hcall hlocation with ⟨u, hupload⟩
    exact hupload.value_ne (hsteps x hx) rfl
  · intro hprogram steps i x hx hname
    refine ⟨_, getElem?_answers_ofContext _ _ _ hx, ?_⟩
    intro call hcall l hl
    exact ContextStep.nonneg_of_mem_calls hprogram hname hcall hl

/-- Uniforms that are set at a missing location, at a negative one, and by name. -/
def SurfaceStep.scatteredSession : List SurfaceStep :=
  [.setUniform ⟨-1⟩ (.scalar .bool true),
    .setUniform ⟨-2⟩ (.scalar (.num .int) (5 : Int32)),
    .shaderSet "offset" (.vector (.num .float) .two #v[⟨1⟩, ⟨2⟩]),
    .shaderTransform .identity]

/-- A program for which the driver answers with a negative number. -/
def LinkedProgram.answersNegative : LinkedProgram :=
  { id := 7, uniforms := [("MVP", 4), ("offset", -2)], attributes := [] }

theorem Transcript.locations_of_calls_scattered :
    (forall x, x ∈ SurfaceStep.scatteredSession.map ContextStep.surface ->
      x.checksLocation = true) ∧
    (forall x, x ∈ SurfaceStep.scatteredSession -> x.checksLocation = true) ∧
    (forall answer, answer ∈ (ofContext (Driver.ofTables [] [.answersNegative]) {}
        { program := 7, uniforms := [("offset", -2)] }
        (SurfaceStep.scatteredSession.map .surface)).answers ->
      forall call, call ∈ answer.calls -> call.location? ≠ some (-1)) ∧
    (forall answer, answer ∈ (ofRecording { program := 7, uniforms := [("offset", -2)] }
        SurfaceStep.scatteredSession).answers ->
      forall call, call ∈ answer.calls -> call.location? ≠ some (-1)) ∧
    (exists answer, (ofContext (Driver.ofTables [] [.answersNegative]) {}
        { program := 7, uniforms := [("offset", -2)] }
        (SurfaceStep.scatteredSession.map .surface)).answers[2]? = some answer ∧
      forall call, call ∈ answer.calls -> forall l, call.location? = some l -> 0 ≤ l) ∧
    exists answer, (ofContext (Driver.ofTables [] [.answersNegative]) {}
        { program := 7, uniforms := [("offset", -2)] }
        (SurfaceStep.scatteredSession.map .surface)).answers[3]? = some answer ∧
      (forall call, call ∈ answer.calls -> forall l, call.location? = some l -> 0 ≤ l) ∧
      answer.calls.map NativeCall.location? = [none, some 4] := by
  have hcontext : forall x, x ∈ SurfaceStep.scatteredSession.map ContextStep.surface ->
      x.checksLocation = true := by
    decide
  have hrecording : forall x, x ∈ SurfaceStep.scatteredSession ->
      x.checksLocation = true := by
    decide
  rcases locations_of_calls (Driver.ofTables [] [.answersNegative]) {}
    { program := 7, uniforms := [("offset", -2)] } with ⟨honContext, honRecording, hresolved⟩
  have hnegative := hresolved (by decide) (SurfaceStep.scatteredSession.map .surface) 2 _ rfl rfl
  rcases hresolved (by decide) (SurfaceStep.scatteredSession.map .surface) 3 _ rfl rfl with
    ⟨answer, hanswer, hfound⟩
  have hcalls : answer.calls.map NativeCall.location? = [none, some 4] := by
    cases hanswer
    rfl
  exact ⟨hcontext, hrecording, honContext _ hcontext, honRecording _ hrecording, hnegative,
    answer, hanswer, hfound, hcalls⟩

end ShaderUniforms
