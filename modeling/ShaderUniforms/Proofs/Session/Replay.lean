import ShaderUniforms.Gl.Replay
import ShaderUniforms.Native.Method
import ShaderUniforms.Native.Reading
import ShaderUniforms.Proofs.Gl.Slices
import ShaderUniforms.Proofs.Outcome
import ShaderUniforms.Proofs.Session.Runs
import ShaderUniforms.Proofs.Session.Steps

/-!
# Recorded sessions and real ones

A recording surface stands in for a context.  What was recorded in a session,
translated call by call, is what the context calls in the same session, with
the same results and the same log.  The translation goes by the list of methods:
the symbol that is called stands there beside the name that was recorded.

The argument is about any two surfaces.  If one does, translated, what the other
does for single uploads and bindings, then the same holds for all that is built
on these: setting uniforms, binding textures, shaders and whole sessions.
-/

namespace ShaderUniforms

variable {gamma delta kappa mu : Type} [Surface gamma kappa] [Surface delta mu]

/-!
## Surfaces and shaders
-/

/-- The target does, translated, what the source does. -/
structure Surface.Replays (translate : kappa -> mu) (source : gamma) (target : delta) :
    Prop where
  uniform_eq : forall (l : UniformLocation) (u : Upload), u.Fits ->
    Surface.uniform target l u = (Surface.uniform source l u).mapCalls translate
  bindTexture_eq : forall (t : TextureTarget) (id : UInt32),
    Surface.bindTexture target t id = (Surface.bindTexture source t id).mapCalls translate

/-- The target shader does, translated, what the source shader does. -/
structure Shader.Replays (translate : kappa -> mu) (source : Shader gamma kappa)
    (target : Shader delta mu) : Prop where
  surface : Surface.Replays translate source.surface target.surface
  program_eq : target.program = source.program
  locate_eq : forall name : String,
    target.locate name = (source.locate name).mapCalls translate

/-!
## Steps
-/

/-- What holds of the parts of an operation holds of all of it: its calls are translated. -/
theorem Outcome.compositional_mapCalls (translate : kappa -> mu) :
    Compositional fun alpha (o : Outcome kappa alpha) p => p = o.mapCalls translate where
  of_pure := by
    intro _ x
    exact (mapCalls_pure translate x).symm
  of_fail := by
    intro _ e
    exact (mapCalls_fail translate e).symm
  of_log := by
    intro event
    exact (mapCalls_log translate event).symm
  of_bind := by
    intro _ _ o _ next follow hfirst hnext
    rw [hfirst, mapCalls_bind]
    exact bind_congr_of_ok hnext

theorem Shader.Replays.related {translate : kappa -> mu} {source : Shader gamma kappa}
    {target : Shader delta mu} (h : Replays translate source target) :
    Shader.Related (fun _ o p => p = o.mapCalls translate) source target where
  program_eq := h.program_eq
  bindTexture := h.surface.bindTexture_eq
  locate := h.locate_eq

namespace SurfaceStep

/-- A step that does not select a program, and whose numbers can be counted. -/
def Replayable : SurfaceStep -> Prop
  | native _ u => u.Fits
  | shaderUse => False
  | _ => True

instance : DecidablePred Replayable
  | native _ u => inferInstanceAs (Decidable u.Fits)
  | shaderUse => instDecidableFalse
  | setUniform _ _ => instDecidableTrue
  | upload _ _ => instDecidableTrue
  | bind _ => instDecidableTrue
  | bindRaw _ _ => instDecidableTrue
  | bindDirect _ _ => instDecidableTrue
  | shaderSet _ _ => instDecidableTrue
  | shaderTransform _ => instDecidableTrue
  | shaderPass => instDecidableTrue

omit [Surface gamma kappa] in
theorem MayUpload.fits {shader : Shader gamma kappa} {x : SurfaceStep} {l : UniformLocation}
    {u : Upload} (h : x.MayUpload shader l u) (hx : x.Replayable) : u.Fits := by
  cases h with
  | setUniform hfound v => exact v.toUpload_fits
  | upload l v => exact v.toUpload_fits
  | native l u => exact hx
  | shaderSet hlocate hfound v => exact v.toUpload_fits
  | shaderTransform hlocate hfound m => exact UniformValue.toUpload_fits _

theorem perform_eq {translate : kappa -> mu} {source : Shader gamma kappa}
    {target : Shader delta mu} (h : Shader.Replays translate source target)
    {x : SurfaceStep} (hx : x.Replayable) :
    x.perform target = (x.perform source).mapCalls translate := by
  apply perform_related (Outcome.compositional_mapCalls translate) h.related
  · intro l u hupload
    exact h.surface.uniform_eq l u (hupload.fits hx)
  · intro huse
    rw [huse] at hx
    exact hx.elim

end SurfaceStep

/-!
## Names of recorded calls
-/

/--
The translated call goes to the function that is listed for the recorded method, which
is what the name and the symbol both say, and counts items of the listed size.
-/
def RecordedCall.KeepsMethod (call : RecordedCall) : Prop :=
  match call with
  | uniform f _ _ _ =>
      exists m : Method, m ∈ Method.all ∧ m.divisor = f.stride ∧
        call.name = m.name ∧ UniformFunction.ofName? m.name = some f ∧
        call.toNative.symbol = m.symbol ∧ UniformFunction.ofSymbol? m.symbol = some f
  | bindTexture _ _ => call.name = "bind_texture" ∧ call.toNative.symbol = "glBindTexture"

theorem RecordedCall.symbol_toNative_uniform (f : UniformFunction) (l : Int32)
    (t : Option Bool) (xs : Components) : (uniform f l t xs).toNative.symbol = f.symbol := by
  cases f <;> rfl

theorem RecordedCall.keepsMethod (call : RecordedCall) : call.KeepsMethod := by
  cases call with
  | uniform f l t xs =>
      refine ⟨f.method, Method.method_mem_all f, rfl, rfl, ?_, ?_, ?_⟩
      · exact f.ofName?_name
      · exact symbol_toNative_uniform f l t xs
      · exact f.ofSymbol?_symbol
  | bindTexture target id => exact ⟨rfl, rfl⟩

/-!
## A recording surface and a context
-/

/-- The whole items of the record are those of the slice. -/
theorem SliceFunction.toNative_record (f : SliceFunction) (l : UniformLocation)
    (xs : f.Slice) :
    (Recording.record l (f.upload xs)).toNative =
      f.call l (Int32.ofNat (f.itemCount xs)) (f.wholeItems xs) := by
  cases f with
  | vector e n => rfl
  | matrix p c r t => rfl

theorem Upload.toNative_record {rule : CountRule} (hrule : rule.Exact) {u : Upload}
    (hu : u.Fits) (l : UniformLocation) :
    (Recording.record l u).toNative = u.toCall rule l := by
  rcases SliceFunction.exists_upload_eq u with ⟨e, x, rfl⟩ | ⟨f, xs, rfl⟩
  · rfl
  · have hlength : xs.length < wordLimit := SliceFunction.fits_upload_iff.mp hu
    rw [SliceFunction.toCall_upload hrule l hlength]
    exact f.toNative_record l xs

theorem Recording.replays {driver : Driver} (hdriver : driver.Complete) :
    Surface.Replays RecordedCall.toNative ({} : Recording)
      (Context.create driver { loadExtended := true }) where
  uniform_eq := by
    intro l u hu
    show Context.uniform _ l u = (Outcome.call (Recording.record l u)).mapCalls _
    rw [Outcome.mapCalls_call, Upload.toNative_record (driver.countRule_exact u.function) hu]
    exact Context.uniform_create_of_offers
      (Settings.offers_of_complete hdriver u.function) l
  bindTexture_eq := by
    intro t id
    exact Context.issue_of_exposes (hdriver .bindTexture)

theorem ShaderTable.replays {driver : Driver} (hdriver : driver.Complete)
    {shader : ShaderTable} (hprogram : shader.program = 0) :
    Shader.Replays RecordedCall.toNative (shader.onRecording {})
      (shader.onContext (Context.create driver { loadExtended := true })) where
  surface := Recording.replays hdriver
  program_eq := rfl
  locate_eq := by
    intro name
    have hnone : Program.ofId? shader.program = none :=
      Program.ofId?_eq_none_iff.mpr hprogram
    simp only [ShaderTable.onContext, ShaderTable.onRecording, hnone]
    rfl

/--
A session on a context that lacks nothing gives, step by step, the results and
the log of the same session on a recording surface, and the recorded calls
translated one by one, each of them to the function that is listed for its method.
-/
theorem Transcript.answers_ofContext_eq_replay {driver : Driver}
    (hdriver : driver.Complete) {shader : ShaderTable} (hprogram : shader.program = 0)
    {steps : List SurfaceStep} (hsteps : forall x, x ∈ steps -> x.Replayable) :
    (ofContext driver { loadExtended := true } shader (steps.map .surface)).answers =
        (ofRecording shader steps).answers.map (Outcome.mapCalls RecordedCall.toNative) ∧
      forall call : RecordedCall, call.KeepsMethod := by
  have hshader := ShaderTable.replays hdriver hprogram
  constructor
  · rw [answers_ofContext, answers_ofRecording, List.map_map, List.map_map]
    apply List.map_congr_left
    intro x hx
    exact SurfaceStep.perform_eq hshader (hsteps x hx)
  · exact RecordedCall.keepsMethod

/-- A session with a list cut off inside an item, a missing name and a bad target. -/
def SurfaceStep.raggedSession : List SurfaceStep :=
  [.native ⟨-7⟩ (.vector .double .three [⟨1⟩, ⟨2⟩, ⟨3⟩, ⟨4⟩, ⟨5⟩]),
    .native ⟨3⟩ (.matrix .single .two .three true [⟨1⟩]),
    .setUniform ⟨-1⟩ (.scalar .bool true),
    .shaderSet "time" (.vector .bool .two #v[true, false]),
    .shaderSet "offset" (.scalar (.num .uint) (5 : UInt32)),
    .bindRaw 0 42,
    .bind ⟨.d2, 0⟩]

theorem Transcript.answers_ofContext_eq_replay_ragged :
    (Driver.ofTables [] []).Complete ∧
      (forall x, x ∈ SurfaceStep.raggedSession -> x.Replayable) ∧
      (ofContext (Driver.ofTables [] []) { loadExtended := true }
          { uniforms := [("time", 4)] } (SurfaceStep.raggedSession.map .surface)).answers =
        (ofRecording { uniforms := [("time", 4)] } SurfaceStep.raggedSession).answers.map
          (Outcome.mapCalls RecordedCall.toNative) ∧
      forall call : RecordedCall, call.KeepsMethod := by
  have hsteps : forall x, x ∈ SurfaceStep.raggedSession -> x.Replayable := by
    decide
  refine ⟨Driver.ofTables_complete [], hsteps, ?_⟩
  exact answers_ofContext_eq_replay (Driver.ofTables_complete []) rfl hsteps

end ShaderUniforms
