import ShaderUniforms.Proofs.Gl.Calls
import ShaderUniforms.Proofs.Session.Runs

/-!
# What a failed step leaves behind

A step on a context that fails has changed nothing in the graphics library.
Most steps are a single operation, which is carried out or fails before it has
called or logged anything.  Two kinds of step have parts, and may fail between
them: a uniform that is set by name is looked up and then uploaded, and a texture
is announced in the log and then bound.  It is said for each place of failure
what has been done by then.
-/

namespace ShaderUniforms

/-!
## Operations without parts
-/

namespace Outcome

variable {kappa alpha beta : Type} {o : Outcome kappa alpha}

/-- If the operation fails, it has made no call and logged nothing. -/
def FailsAtOnce (o : Outcome kappa alpha) : Prop :=
  forall e : Failure, o.result = .error e -> o = fail e

/-- The operation fails in this way, and it does so only by a fault. -/
def AbortsAtOnce (o : Outcome kappa alpha) : Prop :=
  forall e : Failure, o.result = .error e ->
    exists fault : Fault, e = .aborted fault ∧ o = fail (.aborted fault)

theorem abortsAtOnce_of_ok {x : alpha} (h : o.result = .ok x) : o.AbortsAtOnce := by
  intro e he
  rw [h] at he
  cases he

theorem abortsAtOnce_fail (fault : Fault) :
    (fail (.aborted fault) : Outcome kappa alpha).AbortsAtOnce := by
  intro e he
  cases he
  exact ⟨fault, rfl, rfl⟩

theorem AbortsAtOnce.failsAtOnce (h : o.AbortsAtOnce) : o.FailsAtOnce := by
  intro e he
  rcases h e he with ⟨fault, rfl, hfailed⟩
  exact hfailed

theorem failsAtOnce_of_ok {x : alpha} (h : o.result = .ok x) : o.FailsAtOnce :=
  (abortsAtOnce_of_ok h).failsAtOnce

theorem failsAtOnce_ofExcept (x : Except Error alpha) :
    (ofExcept x : Outcome kappa alpha).FailsAtOnce := by
  cases x with
  | ok value => exact failsAtOnce_of_ok rfl
  | error error =>
      intro e he
      cases he
      rfl

/-- A composition fails at its first part, or at the second one after the first is done. -/
theorem bind_failed {next : alpha -> Outcome kappa beta} (hfirst : o.FailsAtOnce)
    (hnext : forall x, o.result = .ok x -> (next x).FailsAtOnce) {e : Failure}
    (he : (o >>= next).result = .error e) :
    (o.result = .error e ∧ o >>= next = fail e) ∨
      exists x, o.result = .ok x ∧ (next x).result = .error e ∧
        o >>= next = { result := .error e, calls := o.calls, logs := o.logs } := by
  cases hresult : o.result with
  | error f =>
      rw [bind_eq_of_error hresult] at he ⊢
      cases he
      apply Or.inl
      rw [hfirst e hresult]
      exact ⟨rfl, rfl⟩
  | ok x =>
      rw [bind_eq_of_ok hresult] at he ⊢
      have hfailed := hnext x hresult e he
      apply Or.inr
      refine ⟨x, rfl, he, ?_⟩
      rw [hfailed]
      simp [fail]

theorem FailsAtOnce.bind_pure (h : o.FailsAtOnce) (f : alpha -> beta) :
    (o >>= fun x => pure (f x)).FailsAtOnce := by
  intro e he
  rcases bind_failed h (fun x _ => failsAtOnce_of_ok rfl) he with
    ⟨_, hfailed⟩ | ⟨x, _, hpure, _⟩
  · exact hfailed
  · cases hpure

end Outcome

namespace Context

variable (context : Context)

theorem issue_abortsAtOnce (c : NativeCall) : (context.issue c).AbortsAtOnce := by
  cases hexposes : context.driver.exposes c.symbol with
  | true =>
      rw [issue_of_exposes hexposes]
      exact Outcome.abortsAtOnce_of_ok rfl
  | false =>
      rw [issue_of_not_exposes hexposes]
      exact Outcome.abortsAtOnce_fail _

/-- An upload through an optional function does not fail at all. -/
theorem uniform_abortsAtOnce (l : UniformLocation) (u : Upload) :
    (context.uniform l u).AbortsAtOnce := by
  unfold uniform
  by_cases hextended : u.function.isExtended = true
  · rw [if_pos hextended]
    cases hhas : context.table.has u.function with
    | true =>
        rw [FunctionTable.uniform_of_has hhas]
        exact Outcome.abortsAtOnce_of_ok rfl
    | false =>
        rw [FunctionTable.uniform_of_not_has hhas]
        exact Outcome.abortsAtOnce_of_ok rfl
  · rw [if_neg hextended]
    exact context.issue_abortsAtOnce (u.toCall context.driver.binding.count l)

theorem setUniform_abortsAtOnce (l : UniformLocation) (v : UniformValue) :
    (Surface.setUniform context l v).AbortsAtOnce := by
  cases hfound : l.isFound with
  | true =>
      rw [Surface.setUniform_of_isFound context hfound]
      exact context.uniform_abortsAtOnce l v.toUpload
  | false =>
      rw [Location.isFound_eq_false_iff.mp hfound, Surface.setUniform_notFound]
      exact Outcome.abortsAtOnce_of_ok rfl

theorem locate_abortsAtOnce (k : Variable) (p : Program) (name : String) :
    (context.locate k p name).AbortsAtOnce := by
  rcases context.locate_cases k p name with ⟨fault, hlocate⟩ | hlocate
  · rw [hlocate]
    exact Outcome.abortsAtOnce_fail fault
  · rw [hlocate]
    exact Outcome.abortsAtOnce_of_ok rfl

end Context

/-- Set by name, a uniform is not found, or it is not uploaded after it has been found. -/
theorem Shader.setUniform_failed {gamma kappa : Type} [Surface gamma kappa]
    {s : Shader gamma kappa} {name : String} {v : UniformValue}
    (hlookup : (s.locate name).AbortsAtOnce)
    (hupload : forall l : UniformLocation, (Surface.upload s.surface l v).AbortsAtOnce)
    {e : Failure} (he : (s.setUniform name v).result = .error e) :
    exists fault : Fault, e = .aborted fault ∧
      ((s.locate name = .fail (.aborted fault) ∧
          s.setUniform name v = .fail (.aborted fault)) ∨
        exists l, (s.locate name).result = .ok l ∧
          Surface.upload s.surface l v = .fail (.aborted fault) ∧
          s.setUniform name v =
            { result := .error (.aborted fault)
              calls := (s.locate name).calls
              logs := (s.locate name).logs }) := by
  have hnext : forall l : UniformLocation, (s.locate name).result = .ok l ->
      (if l.isFound then Surface.upload s.surface l v
        else .log (.inactiveUniform name s.program)).FailsAtOnce := by
    intro l _
    by_cases hfound : l.isFound = true
    · rw [if_pos hfound]
      exact (hupload l).failsAtOnce
    · rw [if_neg hfound]
      exact Outcome.failsAtOnce_of_ok rfl
  rcases Outcome.bind_failed hlookup.failsAtOnce hnext he with
    ⟨hfirst, hfailed⟩ | ⟨l, hl, hsecond, hfailed⟩
  · rcases hlookup e hfirst with ⟨fault, rfl, hlocate⟩
    exact ⟨fault, rfl, Or.inl ⟨hlocate, hfailed⟩⟩
  · by_cases hfound : l.isFound = true
    · rw [if_pos hfound] at hsecond
      rcases hupload l e hsecond with ⟨fault, rfl, hnot⟩
      exact ⟨fault, rfl, Or.inr ⟨l, hl, hnot, hfailed⟩⟩
    · rw [if_neg hfound] at hsecond
      cases hsecond

namespace ShaderTable

theorem locate_onContext_abortsAtOnce (shader : ShaderTable) (context : Context)
    (name : String) : ((shader.onContext context).locate name).AbortsAtOnce := by
  by_cases hprogram : shader.program = 0
  · rw [locate_onContext_of_eq_zero hprogram]
    exact Outcome.abortsAtOnce_of_ok rfl
  · rw [locate_onContext_of_ne_zero hprogram]
    exact context.locate_abortsAtOnce .uniform _ name

theorem calls_and_logs_of_locate {shader : ShaderTable} {context : Context} {name : String}
    {l : UniformLocation}
    (hlocate : ((shader.onContext context).locate name).result = .ok l) :
    ((shader.onContext context).locate name).calls =
        (if shader.program = 0 then []
          else [.getLocation .uniform shader.program name]) ∧
      ((shader.onContext context).locate name).logs = [] := by
  rcases shader.locate_onContext_cases context name with ⟨e, hcases⟩ | ⟨m, hcases⟩
  · rw [hcases] at hlocate
    cases hlocate
  · rw [hcases]
    exact ⟨rfl, rfl⟩

end ShaderTable

/-!
## Places of failure
-/

namespace ContextStep

/-- The step sets the value of the uniform that has the name. -/
inductive SetsUniform : ContextStep -> String -> UniformValue -> Prop where
  | shaderSet (name : String) (v : UniformValue) :
      SetsUniform (.surface (.shaderSet name v)) name v
  | shaderTransform (m : Matrix Binary32 4 4) :
      SetsUniform (.surface (.shaderTransform m)) Shader.transformName
        (.matrix .single .four .four m)

/-- The step announces and binds the texture, which it may have got by its raw target. -/
inductive Binds : ContextStep -> Texture -> Prop where
  | bind (t : Texture) : Binds (.surface (.bind t)) t
  | bindRaw {raw id : UInt32} {t : Texture} (hraw : Texture.ofConst raw id = .ok t) :
      Binds (.surface (.bindRaw raw id)) t

/-- A step that is more than one operation, and can fail between them. -/
def hasParts : ContextStep -> Bool
  | surface (.shaderSet _ _) => true
  | surface (.shaderTransform _) => true
  | surface (.bind _) => true
  | surface (.bindRaw _ _) => true
  | _ => false

/-- How a step can fail, with the calls that it has made and the events it has logged. -/
inductive FailsAfter (b : ShadedContext) :
    Failure -> ContextStep -> List NativeCall -> List LogEvent -> Prop where
  /-- There is only one place. -/
  | single {e : Failure} {x : ContextStep} (hx : x.hasParts = false) : FailsAfter b e x [] []
  /-- The uniform is not looked up. -/
  | lookup {fault : Fault} {x : ContextStep} {name : String} {v : UniformValue}
      (hx : x.SetsUniform name v)
      (hlocate : (b.shader.onContext b.context).locate name = .fail (.aborted fault)) :
      FailsAfter b (.aborted fault) x [] []
  /-- The uniform has been looked up, by the driver if there is a program, and is not uploaded. -/
  | upload {fault : Fault} {x : ContextStep} {name : String} {v : UniformValue}
      {l : UniformLocation} (hx : x.SetsUniform name v)
      (hlocate : ((b.shader.onContext b.context).locate name).result = .ok l)
      (hupload : Surface.upload b.context l v = .fail (.aborted fault)) :
      FailsAfter b (.aborted fault) x
        (if b.shader.program = 0 then []
          else [.getLocation .uniform b.shader.program name]) []
  /-- There is no such target. -/
  | target {error : Error} {raw id : UInt32} (hraw : Texture.ofConst raw id = .error error) :
      FailsAfter b (.rejected error) (.surface (.bindRaw raw id)) [] []
  /-- The texture has been announced and is not bound. -/
  | binding {fault : Fault} {x : ContextStep} {t : Texture} (hx : x.Binds t)
      (hbind : Surface.bindTexture b.context t.target t.id = .fail (.aborted fault)) :
      FailsAfter b (.aborted fault) x [] [.bindingTexture t]

variable {b : ShadedContext} {e : Failure} {x : ContextStep}

/-- Nothing has been called but the function that looks uniforms up. -/
theorem FailsAfter.function_eq {calls : List NativeCall} {logs : List LogEvent}
    (h : FailsAfter b e x calls logs) {c : NativeCall} (hc : c ∈ calls) :
    c.function = .getLocation .uniform := by
  cases h with
  | single hx => exact absurd hc List.not_mem_nil
  | lookup hx hlocate => exact absurd hc List.not_mem_nil
  | upload hx hlocate hupload =>
      by_cases hprogram : b.shader.program = 0
      · rw [if_pos hprogram] at hc
        exact absurd hc List.not_mem_nil
      · rw [if_neg hprogram] at hc
        rw [List.mem_singleton.mp hc]
        rfl
  | target hraw => exact absurd hc List.not_mem_nil
  | binding hx hbind => exact absurd hc List.not_mem_nil

/-- If the outcome is a failure, it shows what the step has done up to its place of failure. -/
def FailsInPlace (b : ShadedContext) (x : ContextStep) {alpha : Type}
    (o : Outcome NativeCall alpha) : Prop :=
  forall e : Failure, o.result = .error e -> FailsAfter b e x o.calls o.logs

theorem failsInPlace_of_single (hx : x.hasParts = false) {alpha : Type}
    {o : Outcome NativeCall alpha} (ho : o.FailsAtOnce) : x.FailsInPlace b o := by
  intro e he
  rw [ho e he]
  exact .single hx

theorem FailsInPlace.bind_pure {alpha beta : Type} {o : Outcome NativeCall alpha}
    (h : x.FailsInPlace b o) (f : alpha -> beta) :
    x.FailsInPlace b (o >>= fun y => pure (f y)) := by
  intro e he
  cases hresult : o.result with
  | error g =>
      rw [Outcome.bind_eq_of_error hresult] at he ⊢
      cases he
      exact h e hresult
  | ok y =>
      rw [Outcome.bind_eq_of_ok hresult] at he
      cases he

/-!
### Steps with parts
-/

theorem setUniform_failsInPlace {name : String} {v : UniformValue}
    (hx : x.SetsUniform name v) :
    x.FailsInPlace b ((b.shader.onContext b.context).setUniform name v) := by
  intro e he
  have hlookup := b.shader.locate_onContext_abortsAtOnce b.context name
  have hoperation := fun l => b.context.uniform_abortsAtOnce l v.toUpload
  rcases Shader.setUniform_failed hlookup hoperation he with
    ⟨fault, rfl, ⟨hlocate, hfailed⟩ | ⟨l, hlocate, hupload, hfailed⟩⟩
  · rw [hfailed]
    exact .lookup hx hlocate
  · have hasked := ShaderTable.calls_and_logs_of_locate hlocate
    rw [hfailed, hasked.left, hasked.right]
    exact .upload hx hlocate hupload

theorem bind_failsInPlace {t : Texture} (hx : x.Binds t) :
    x.FailsInPlace b (Surface.bind b.context t) := by
  intro e he
  have hoperation := b.context.issue_abortsAtOnce (.bindTexture t.target.glConst t.id)
  rcases hoperation e he with ⟨fault, rfl, hbind⟩
  have hfailed : Surface.bind b.context t =
      { result := .error (.aborted fault), logs := [.bindingTexture t] } := by
    show (.log (.bindingTexture t) >>= fun _ =>
      b.context.issue (.bindTexture t.target.glConst t.id)) = _
    rw [hbind]
    rfl
  rw [hfailed]
  exact .binding hx hbind

theorem bindRaw_failsInPlace (raw id : UInt32) :
    (surface (.bindRaw raw id)).FailsInPlace b (Surface.bindRaw b.context raw id) := by
  unfold Surface.bindRaw
  cases hraw : Texture.ofConst raw id with
  | error error =>
      intro e he
      cases he
      exact .target hraw
  | ok t => exact bind_failsInPlace (.bindRaw hraw)

/-!
### All steps
-/

theorem act_failsInPlace (b : ShadedContext) (y : SurfaceStep) :
    (surface y).FailsInPlace b (y.act (b.shader.onContext b.context)) := by
  cases y with
  | setUniform l v =>
      exact failsInPlace_of_single rfl (b.context.setUniform_abortsAtOnce l v).failsAtOnce
  | upload l v =>
      exact failsInPlace_of_single rfl (b.context.uniform_abortsAtOnce l v.toUpload).failsAtOnce
  | native l u =>
      exact failsInPlace_of_single rfl (b.context.uniform_abortsAtOnce l u).failsAtOnce
  | bind t => exact bind_failsInPlace (.bind t)
  | bindRaw raw id => exact bindRaw_failsInPlace raw id
  | bindDirect t id =>
      exact failsInPlace_of_single rfl
        (b.context.issue_abortsAtOnce (.bindTexture t.glConst id)).failsAtOnce
  | shaderSet name v => exact setUniform_failsInPlace (.shaderSet name v)
  | shaderTransform m => exact setUniform_failsInPlace (.shaderTransform m)
  | shaderPass => exact failsInPlace_of_single rfl (Outcome.failsAtOnce_of_ok rfl)
  | shaderUse =>
      exact failsInPlace_of_single rfl (b.context.issue_abortsAtOnce _).failsAtOnce

theorem perform_failsInPlace (b : ShadedContext) (x : ContextStep) :
    x.FailsInPlace b (x.perform b) := by
  cases x with
  | surface y => exact (act_failsInPlace b y).bind_pure fun _ => Reply.done
  | useProgram p =>
      apply failsInPlace_of_single rfl
      exact (b.context.issue_abortsAtOnce _).failsAtOnce.bind_pure fun _ => Reply.done
  | locate k p name =>
      apply failsInPlace_of_single rfl
      exact (b.context.locate_abortsAtOnce k p name).failsAtOnce.bind_pure (Reply.location k)
  | require symbol =>
      apply failsInPlace_of_single rfl
      exact (Outcome.failsAtOnce_ofExcept _).bind_pure fun _ => Reply.done
  | supportsDouble => exact failsInPlace_of_single rfl (Outcome.failsAtOnce_of_ok rfl)
  | clone => exact failsInPlace_of_single rfl (Outcome.failsAtOnce_of_ok rfl)
  | resume n => exact failsInPlace_of_single rfl (Outcome.failsAtOnce_of_ok rfl)
  | lookup symbol => exact failsInPlace_of_single rfl (Outcome.failsAtOnce_of_ok rfl)

end ContextStep

/-!
## Transcripts
-/

namespace Transcript

/--
In a session on a context, a step that fails has called nothing but the function
that looks a uniform up, and that only if it was to upload the uniform next.
It has logged nothing but the texture that it was to bind next.
-/
theorem answer_of_failed_step (driver : Driver) (settings : Settings)
    (shader : ShaderTable) {steps : List ContextStep} {i : Nat} {x : ContextStep}
    (hx : steps[i]? = some x) {answer : Answer NativeCall}
    (hanswer : (ofContext driver settings shader steps).answers[i]? = some answer)
    {e : Failure} (he : answer.result = .error e) :
    ContextStep.FailsAfter ⟨.create driver settings, shader⟩ e x answer.calls answer.logs ∧
      forall c, c ∈ answer.calls -> c.function = .getLocation .uniform := by
  have hsome := (getElem?_answers_ofContext driver settings shader hx).symm.trans hanswer
  injection hsome with hsome
  subst hsome
  have hplace := x.perform_failsInPlace _ e he
  constructor
  · exact hplace
  · intro c hc
    exact hplace.function_eq hc

/-- A uniform whose upload aborts, a bad target, a texture, and a name that holds a NUL. -/
def failingSteps : List ContextStep :=
  [.surface (.shaderSet "wind" (.scalar (.num .float) ⟨9⟩)),
    .surface (.bindRaw 0x0DE0 6),
    .surface (.bind ⟨.d2, 6⟩),
    .locate .attribute ⟨7, by decide⟩ "wi\x00nd"]

/-- A driver that knows where the uniform is, but can neither set it nor bind textures. -/
def windDriver : Driver :=
  .ofTables ["glUniform1f", "glBindTexture"]
    [{ id := 7, uniforms := [("wind", 1)], attributes := [] }]

theorem answer_of_failed_step_wind :
    exists answer,
      failingSteps[0]? = some (.surface (.shaderSet "wind" (.scalar (.num .float) ⟨9⟩))) ∧
      (ofContext windDriver {} { program := 7 } failingSteps).answers[0]? = some answer ∧
      answer.result = .error (.aborted (.notLoaded (.uniform (.scalar .float)))) ∧
      answer.calls = [.getLocation .uniform 7 "wind"] ∧
      ContextStep.FailsAfter ⟨.create windDriver {}, { program := 7 }⟩
        (.aborted (.notLoaded (.uniform (.scalar .float))))
        (.surface (.shaderSet "wind" (.scalar (.num .float) ⟨9⟩)))
        answer.calls answer.logs ∧
      forall c, c ∈ answer.calls -> c.function = .getLocation .uniform := by
  have hx : failingSteps[0]? =
      some (.surface (.shaderSet "wind" (.scalar (.num .float) ⟨9⟩))) := rfl
  have hanswer := getElem?_answers_ofContext windDriver {} { program := 7 } hx
  have hfailed := answer_of_failed_step windDriver {} { program := 7 } hx hanswer rfl
  exact ⟨_, hx, hanswer, rfl, rfl, hfailed⟩

end Transcript

end ShaderUniforms
