import ShaderUniforms.Proofs.Surface.RecordedUploads
import ShaderUniforms.Proofs.Session.Runs

/-!
# Booleans in sessions

Booleans are sent as integers, and nobody can see the difference.  If integers
are given in place of the booleans in a session, then each step still makes the
same calls, skips or aborts in the same way and logs the same events.  One log
line is different, and it should be: where a value is set at no location, the
line names the type of the value.
-/

namespace ShaderUniforms

variable {sigma gamma kappa : Type}

/-!
## Integers in place of booleans
-/

namespace UniformValue

theorem toUpload_integersForBools (v : UniformValue) :
    v.integersForBools.toUpload = v.toUpload := by
  rw [integersForBools_eq_withoutBools, toUpload_withoutBools]

/-- The name of the type has changed, from booleans to as many integers, or nothing has. -/
theorem integersForBools_eq_or_names (v : UniformValue) :
    v.integersForBools = v ∨
      (v.type.name = "bool" ∧ v.integersForBools.type.name = "int") ∨
      exists n : Dim, v.type.name = "bvec" ++ n.digit ∧
        v.integersForBools.type.name = "ivec" ++ n.digit := by
  cases v with
  | scalar s x =>
      cases s with
      | num e => exact Or.inl rfl
      | bool => exact Or.inr (Or.inl ⟨rfl, rfl⟩)
  | vector s n v =>
      cases s with
      | num e => exact Or.inl rfl
      | bool => exact Or.inr (Or.inr ⟨n, rfl, rfl⟩)
  | matrix p c r m => exact Or.inl rfl

end UniformValue

namespace SurfaceStep

/-- The step with integers in place of the booleans in its value. -/
def integersForBools : SurfaceStep -> SurfaceStep
  | setUniform l v => setUniform l v.integersForBools
  | upload l v => upload l v.integersForBools
  | shaderSet name v => shaderSet name v.integersForBools
  | x => x

/-- The value that is to be set, if it is to be set at no location. -/
def unplaced? : SurfaceStep -> Option UniformValue
  | setUniform l v => if l = .notFound then some v else none
  | _ => none

end SurfaceStep

namespace ContextStep

def integersForBools : ContextStep -> ContextStep
  | surface x => surface x.integersForBools
  | x => x

def unplaced? : ContextStep -> Option UniformValue
  | surface x => x.unplaced?
  | _ => none

end ContextStep

/-!
## Answers that differ in the name of a type
-/

/-- The answers are the same, but for the type that is named of a value set at no location. -/
structure Answer.SameButType (unplaced? : Option UniformValue) (before after : Answer kappa) :
    Prop where
  result_eq : after.result = before.result
  calls_eq : after.calls = before.calls
  logs_eq : unplaced? = none -> after.logs = before.logs
  logs_unplaced : forall v : UniformValue, unplaced? = some v ->
    before.logs = [.locationNotFound v.type] ∧
      after.logs = [.locationNotFound v.integersForBools.type]

theorem Answer.SameButType.of_eq {before after : Answer kappa} (h : after = before) :
    SameButType none before after where
  result_eq := congrArg Outcome.result h
  calls_eq := congrArg Outcome.calls h
  logs_eq _ := congrArg Outcome.logs h
  logs_unplaced := by
    intro v hv
    cases hv

/-- Two sessions answer the steps in the same way, each of them, but for names of types. -/
inductive Session.AnswersAlike (unplaced? : sigma -> Option UniformValue) :
    List sigma -> List (Answer kappa) -> List (Answer kappa) -> Prop where
  | nil : AnswersAlike unplaced? [] [] []
  | cons {x : sigma} {steps : List sigma} {before after : Answer kappa}
      {befores afters : List (Answer kappa)}
      (hfirst : Answer.SameButType (unplaced? x) before after)
      (hrest : AnswersAlike unplaced? steps befores afters) :
      AnswersAlike unplaced? (x :: steps) (before :: befores) (after :: afters)

/-- If single steps are answered alike after a translation, then so are lists of them. -/
theorem Session.map_answersAlike {outcome : sigma -> Answer kappa}
    {unplaced? : sigma -> Option UniformValue} {translate : sigma -> sigma}
    (hstep : forall x : sigma,
      Answer.SameButType (unplaced? x) (outcome x) (outcome (translate x)))
    (steps : List sigma) :
    AnswersAlike unplaced? steps (steps.map outcome) ((steps.map translate).map outcome) := by
  induction steps with
  | nil => exact .nil
  | cons x rest ih => exact .cons (hstep x) ih

section Surface

variable [Surface gamma kappa]

theorem Surface.upload_integersForBools (surface : gamma) (l : UniformLocation)
    (v : UniformValue) :
    upload surface l v.integersForBools = upload surface l v := by
  unfold upload
  rw [v.toUpload_integersForBools]

theorem Shader.setUniform_integersForBools (shader : Shader gamma kappa) (name : String)
    (v : UniformValue) :
    shader.setUniform name v.integersForBools = shader.setUniform name v := by
  unfold setUniform
  simp only [Surface.upload_integersForBools]

/-- On any surface, a step takes integers for booleans without a difference. -/
theorem SurfaceStep.perform_integersForBools (shader : Shader gamma kappa)
    (x : SurfaceStep) :
    Answer.SameButType x.unplaced? (x.perform shader) (x.integersForBools.perform shader) := by
  cases x with
  | setUniform l v =>
      by_cases hl : l = .notFound
      · subst hl
        constructor
        · rfl
        · rfl
        · intro hplaced
          cases hplaced
        · intro w hw
          cases hw
          exact ⟨rfl, rfl⟩
      · have hunplaced : (setUniform l v).unplaced? = none := if_neg hl
        have hfound : l.isFound = true := Location.isFound_eq_true_iff.mpr hl
        rw [hunplaced]
        apply Answer.SameButType.of_eq
        show (Surface.setUniform shader.surface l v.integersForBools >>= _) =
          (Surface.setUniform shader.surface l v >>= _)
        rw [Surface.setUniform_of_isFound _ hfound, Surface.setUniform_of_isFound _ hfound,
          Surface.upload_integersForBools]
  | upload l v =>
      apply Answer.SameButType.of_eq
      show (Surface.upload shader.surface l v.integersForBools >>= _) = _
      rw [Surface.upload_integersForBools]
      rfl
  | native l u => exact .of_eq rfl
  | bind t => exact .of_eq rfl
  | bindRaw raw id => exact .of_eq rfl
  | bindDirect t id => exact .of_eq rfl
  | shaderSet name v =>
      apply Answer.SameButType.of_eq
      show (shader.setUniform name v.integersForBools >>= _) = _
      rw [shader.setUniform_integersForBools]
      rfl
  | shaderTransform m => exact .of_eq rfl
  | shaderPass => exact .of_eq rfl
  | shaderUse => exact .of_eq rfl

end Surface

theorem ContextStep.perform_integersForBools (b : ShadedContext) (x : ContextStep) :
    Answer.SameButType x.unplaced? (x.perform b) (x.integersForBools.perform b) := by
  cases x with
  | surface y => exact y.perform_integersForBools (b.shader.onContext b.context)
  | useProgram p => exact .of_eq rfl
  | locate k p name => exact .of_eq rfl
  | require symbol => exact .of_eq rfl
  | supportsDouble => exact .of_eq rfl
  | clone => exact .of_eq rfl
  | resume n => exact .of_eq rfl
  | lookup symbol => exact .of_eq rfl

/-!
## Transcripts
-/

namespace Transcript

/--
In a session on a context or on a recording surface, integers may be given for
booleans: each step is answered as before, but for the name of the type where a
value is set at no location.  That name changes only from booleans to integers
of the same shape.
-/
theorem answers_integersForBools (driver : Driver) (settings : Settings)
    (shader : ShaderTable) :
    (forall steps : List ContextStep,
      Session.AnswersAlike ContextStep.unplaced? steps
        (ofContext driver settings shader steps).answers
        (ofContext driver settings shader
          (steps.map ContextStep.integersForBools)).answers) ∧
    (forall steps : List SurfaceStep,
      Session.AnswersAlike SurfaceStep.unplaced? steps
        (ofRecording shader steps).answers
        (ofRecording shader (steps.map SurfaceStep.integersForBools)).answers) ∧
    (forall v : UniformValue, v.integersForBools = v ∨
      (v.type.name = "bool" ∧ v.integersForBools.type.name = "int") ∨
      exists n : Dim, v.type.name = "bvec" ++ n.digit ∧
        v.integersForBools.type.name = "ivec" ++ n.digit) := by
  refine ⟨?_, ?_, ?_⟩
  · intro steps
    rw [answers_ofContext, answers_ofContext]
    exact Session.map_answersAlike (ContextStep.perform_integersForBools _) steps
  · intro steps
    rw [answers_ofRecording, answers_ofRecording]
    exact Session.map_answersAlike (SurfaceStep.perform_integersForBools _) steps
  · exact UniformValue.integersForBools_eq_or_names

end Transcript

end ShaderUniforms
