import ShaderUniforms.Proofs.Gl.Calls
import ShaderUniforms.Session.Backends

/-!
# What steps are made of

A step on a surface is put together from few parts: uploads, bindings, look-ups
and log events, one after the other.  Two systems that take the same step can
therefore be compared part by part.  A relation between outcomes that holds of
the parts, and that composition respects, holds of the whole step.

A step does not upload just anything.  It is said what each step may upload, and
where, so that the parts need to be compared for these uploads only.  The steps
that a context has beside those of a surface upload nothing.
-/

namespace ShaderUniforms

variable {gamma delta kappa mu : Type}

/-!
## Composition
-/

/-- A relation between the outcomes of two systems that composition respects. -/
structure Outcome.Compositional
    (R : (alpha : Type) -> Outcome kappa alpha -> Outcome mu alpha -> Prop) : Prop where
  of_pure : forall {alpha : Type} (x : alpha), R alpha (pure x) (pure x)
  of_fail : forall {alpha : Type} (e : Failure), R alpha (fail e) (fail e)
  of_log : forall event : LogEvent, R Unit (log event) (log event)
  of_bind : forall {alpha beta : Type} {o : Outcome kappa alpha} {p : Outcome mu alpha}
      {next : alpha -> Outcome kappa beta} {follow : alpha -> Outcome mu beta},
    R alpha o p -> (forall x, o.result = .ok x -> R beta (next x) (follow x)) ->
      R beta (o >>= next) (p >>= follow)

theorem Outcome.Compositional.of_ofExcept
    {R : (alpha : Type) -> Outcome kappa alpha -> Outcome mu alpha -> Prop}
    (hR : Compositional R) {alpha : Type} (x : Except Error alpha) :
    R alpha (ofExcept x) (ofExcept x) := by
  cases x with
  | ok value => exact hR.of_pure value
  | error e => exact hR.of_fail (.rejected e)

/-!
## Uploads of a step
-/

variable [Surface gamma kappa] [Surface delta mu]

/-- The step may send the upload to the location. -/
inductive SurfaceStep.MayUpload (shader : Shader gamma kappa) :
    SurfaceStep -> UniformLocation -> Upload -> Prop where
  | setUniform {l : UniformLocation} (hfound : l.isFound = true) (v : UniformValue) :
      MayUpload shader (.setUniform l v) l v.toUpload
  | upload (l : UniformLocation) (v : UniformValue) :
      MayUpload shader (.upload l v) l v.toUpload
  | native (l : UniformLocation) (u : Upload) :
      MayUpload shader (.native l u) l u
  | shaderSet {name : String} {l : UniformLocation}
      (hlocate : (shader.locate name).result = .ok l) (hfound : l.isFound = true)
      (v : UniformValue) :
      MayUpload shader (.shaderSet name v) l v.toUpload
  | shaderTransform {l : UniformLocation}
      (hlocate : (shader.locate Shader.transformName).result = .ok l)
      (hfound : l.isFound = true) (m : Matrix Binary32 4 4) :
      MayUpload shader (.shaderTransform m) l
        (UniformValue.matrix .single .four .four m).toUpload

/-- A step that sets a uniform of the shader, which is named and not located. -/
def ContextStep.setsByName : ContextStep -> Bool
  | surface (.shaderSet _ _) => true
  | surface (.shaderTransform _) => true
  | _ => false

/-!
## Related shaders
-/

/-- Bindings and look-ups of the two shaders are related. -/
structure Shader.Related
    (R : (alpha : Type) -> Outcome kappa alpha -> Outcome mu alpha -> Prop)
    (source : Shader gamma kappa) (target : Shader delta mu) : Prop where
  program_eq : target.program = source.program
  bindTexture : forall (t : TextureTarget) (id : UInt32),
    R Unit (Surface.bindTexture source.surface t id) (Surface.bindTexture target.surface t id)
  locate : forall name : String,
    R UniformLocation (source.locate name) (target.locate name)

section Related

variable {R : (alpha : Type) -> Outcome kappa alpha -> Outcome mu alpha -> Prop}
  {source : Shader gamma kappa} {target : Shader delta mu}

namespace Shader.Related

theorem bind (h : Related R source target) (hR : Outcome.Compositional R) (t : Texture) :
    R Unit (Surface.bind source.surface t) (Surface.bind target.surface t) := by
  apply hR.of_bind
  · exact hR.of_log (.bindingTexture t)
  · intro _ _
    exact h.bindTexture t.target t.id

theorem bindRaw (h : Related R source target) (hR : Outcome.Compositional R)
    (raw id : UInt32) :
    R Unit (Surface.bindRaw source.surface raw id) (Surface.bindRaw target.surface raw id) := by
  apply hR.of_bind
  · exact hR.of_ofExcept (Texture.ofConst raw id)
  · intro t _
    exact h.bind hR t

/-- Only the location that was found is uploaded to. -/
theorem setUniform (h : Related R source target) (hR : Outcome.Compositional R)
    {name : String} {v : UniformValue}
    (hupload : forall l, (source.locate name).result = .ok l -> l.isFound = true ->
      R Unit (Surface.upload source.surface l v) (Surface.upload target.surface l v)) :
    R Unit (source.setUniform name v) (target.setUniform name v) := by
  apply hR.of_bind
  · exact h.locate name
  · intro l hl
    by_cases hfound : l.isFound = true
    · rw [if_pos hfound, if_pos hfound]
      exact hupload l hl hfound
    · rw [if_neg hfound, if_neg hfound, h.program_eq]
      exact hR.of_log (.inactiveUniform name source.program)

end Shader.Related

/-- A step is related if all that it may upload is, and the activation if it comes to that. -/
theorem SurfaceStep.act_related (hR : Outcome.Compositional R)
    (h : Shader.Related R source target) {x : SurfaceStep}
    (huniform : forall (l : UniformLocation) (u : Upload), x.MayUpload source l u ->
      R Unit (Surface.uniform source.surface l u) (Surface.uniform target.surface l u))
    (hactivate : x = .shaderUse -> R Unit source.activate target.activate) :
    R Unit (x.act source) (x.act target) := by
  cases x with
  | setUniform l v =>
      show R Unit (Surface.setUniform source.surface l v) (Surface.setUniform target.surface l v)
      unfold Surface.setUniform
      by_cases hfound : l.isFound = true
      · rw [if_pos hfound, if_pos hfound]
        exact huniform l v.toUpload (.setUniform hfound v)
      · rw [if_neg hfound, if_neg hfound]
        exact hR.of_log (.locationNotFound v.type)
  | upload l v => exact huniform l v.toUpload (.upload l v)
  | native l u => exact huniform l u (.native l u)
  | bind t => exact h.bind hR t
  | bindRaw raw id => exact h.bindRaw hR raw id
  | bindDirect t id => exact h.bindTexture t id
  | shaderSet name v =>
      apply h.setUniform hR
      intro l hl hfound
      exact huniform l v.toUpload (.shaderSet hl hfound v)
  | shaderTransform m =>
      apply h.setUniform hR
      intro l hl hfound
      exact huniform l _ (.shaderTransform hl hfound m)
  | shaderPass => exact hR.of_pure ()
  | shaderUse => exact hactivate rfl

theorem SurfaceStep.perform_related (hR : Outcome.Compositional R)
    (h : Shader.Related R source target) {x : SurfaceStep}
    (huniform : forall (l : UniformLocation) (u : Upload), x.MayUpload source l u ->
      R Unit (Surface.uniform source.surface l u) (Surface.uniform target.surface l u))
    (hactivate : x = .shaderUse -> R Unit source.activate target.activate) :
    R Reply (x.perform source) (x.perform target) := by
  apply hR.of_bind
  · exact x.act_related hR h huniform hactivate
  · intro _ _
    exact hR.of_pure Reply.done

end Related

/-!
## Steps of the context itself
-/

/-- A step that is not one of the surface makes one call at most, and at no location. -/
theorem ContextStep.surface_or_callsAtMost (b : ShadedContext) (x : ContextStep) :
    (exists y, x = .surface y) ∨
      exists c : NativeCall, c.location? = none ∧ (x.perform b).CallsAtMost c := by
  cases x with
  | surface y => exact Or.inl ⟨y, rfl⟩
  | useProgram p =>
      have hcalls := b.context.issue_callsAtMost (.useProgram (p.elim 0 Program.id))
      exact Or.inr ⟨_, rfl, hcalls.bind_pure _⟩
  | locate k p name =>
      have hcalls := b.context.locate_callsAtMost k p name
      exact Or.inr ⟨_, rfl, hcalls.bind_pure _⟩
  -- From here on nothing is called, whichever call is named.
  | require symbol =>
      refine Or.inr ⟨.useProgram 0, rfl, Or.inl ?_⟩
      show (Outcome.ofExcept (b.context.require symbol) >>=
        fun _ => pure Reply.done).calls = []
      rw [Outcome.calls_bind_pure, Outcome.calls_ofExcept]
  | supportsDouble => exact Or.inr ⟨.useProgram 0, rfl, Or.inl rfl⟩
  | clone => exact Or.inr ⟨.useProgram 0, rfl, Or.inl rfl⟩
  | resume n => exact Or.inr ⟨.useProgram 0, rfl, Or.inl rfl⟩
  | lookup symbol => exact Or.inr ⟨.useProgram 0, rfl, Or.inl rfl⟩

end ShaderUniforms
