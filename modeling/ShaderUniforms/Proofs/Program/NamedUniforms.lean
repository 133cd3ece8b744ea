import ShaderUniforms.Program.Shader
import ShaderUniforms.Proofs.Gl.Calls

/-!
# Uniforms set by name

A uniform is set at a location or by name.  Both ways guard against a missing
location on their own, so it has to be shown that they agree: to set by name is
to look the name up and then to set at the location, but for the text that is
logged where there is none.
-/

namespace ShaderUniforms

namespace Shader

variable {gamma kappa : Type} [Surface gamma kappa]

/-- Setting by name does what setting does at the location that was looked up. -/
structure SetsAt (s : Shader gamma kappa) (name : String) (v : UniformValue)
    (l : UniformLocation) (asked : List kappa) : Prop where
  asked_eq : (s.locate name).calls = asked
  result_eq : (s.setUniform name v).result = (Surface.setUniform s.surface l v).result
  calls_eq : (s.setUniform name v).calls =
    asked ++ (Surface.setUniform s.surface l v).calls
  logs_eq : l ≠ .notFound ->
    (s.setUniform name v).logs = (Surface.setUniform s.surface l v).logs
  logs_notFound : l = .notFound ->
    (exists event, (s.setUniform name v).logs = [event] ∧ event.level = .debug) ∧
      (exists event, (Surface.setUniform s.surface l v).logs = [event] ∧
        event.level = .debug) ∧
      (Surface.setUniform s.surface l v).calls = []

/--
Setting by name does what the look-up leads to: it sets at the location, after
the calls that asked for it, or it fails as the look-up does, having done nothing.
-/
structure FollowsLookup (s : Shader gamma kappa) (name : String) (v : UniformValue)
    (asked : List kappa) : Prop where
  located : forall l : UniformLocation, (s.locate name).result = .ok l ->
    s.SetsAt name v l asked
  failed : forall e : Failure, (s.locate name).result = .error e ->
    s.setUniform name v = .fail e

section Guard

variable {s : Shader gamma kappa} {name : String} {l : UniformLocation}

theorem setUniform_of_found (hlocate : (s.locate name).result = .ok l)
    (hfound : l.isFound = true) (v : UniformValue) :
    s.setUniform name v =
      { result := (Surface.setUniform s.surface l v).result
        calls := (s.locate name).calls ++ (Surface.setUniform s.surface l v).calls
        logs := (s.locate name).logs ++ (Surface.setUniform s.surface l v).logs } := by
  unfold setUniform
  rw [Outcome.bind_eq_of_ok hlocate, if_pos hfound, Surface.setUniform_of_isFound _ hfound]

theorem setUniform_of_notFound (hlocate : (s.locate name).result = .ok .notFound)
    (v : UniformValue) :
    s.setUniform name v =
      { result := .ok ()
        calls := (s.locate name).calls
        logs := (s.locate name).logs ++ [.inactiveUniform name s.program] } := by
  have hguard : ¬ (Location.notFound : UniformLocation).isFound = true := by decide
  unfold setUniform
  rw [Outcome.bind_eq_of_ok hlocate, if_neg hguard]
  simp [Outcome.log]

theorem setsAt_of_locate (hlocate : (s.locate name).result = .ok l)
    (hlogs : (s.locate name).logs = []) (v : UniformValue) :
    s.SetsAt name v l (s.locate name).calls := by
  cases hfound : l.isFound with
  | true =>
      have hset := setUniform_of_found hlocate hfound v
      have hne : l ≠ .notFound := Location.isFound_eq_true_iff.mp hfound
      exact
        { asked_eq := rfl
          result_eq := by rw [hset]
          calls_eq := by rw [hset]
          logs_eq := by
            intro _
            rw [hset, hlogs]
            rfl
          logs_notFound := fun hl => absurd hl hne }
  | false =>
      have hl : l = .notFound := Location.isFound_eq_false_iff.mp hfound
      subst hl
      have hset := setUniform_of_notFound hlocate v
      rw [hlogs] at hset
      exact
        { asked_eq := rfl
          result_eq := by
            rw [hset]
            rfl
          calls_eq := by
            rw [hset, Surface.setUniform_notFound]
            exact (List.append_nil _).symm
          logs_eq := fun hne => absurd rfl hne
          logs_notFound := by
            intro _
            rw [hset]
            exact ⟨⟨_, rfl, rfl⟩, ⟨_, rfl, rfl⟩, rfl⟩ }

end Guard

/-- A look-up is followed if it fails in silence or succeeds with nothing but its calls. -/
theorem followsLookup {s : Shader gamma kappa} {name : String} {asked : List kappa}
    (hcases : (exists e : Failure, s.locate name = .fail e) ∨
      exists l : UniformLocation, s.locate name = { result := .ok l, calls := asked })
    (v : UniformValue) : s.FollowsLookup name v asked := by
  rcases hcases with ⟨e, hlocate⟩ | ⟨l, hlocate⟩
  · constructor
    · intro l hl
      rw [hlocate] at hl
      cases hl
    · intro e' he'
      rw [hlocate] at he'
      cases he'
      unfold setUniform
      rw [hlocate]
      rfl
  · have hasked : (s.locate name).calls = asked := by rw [hlocate]
    have hlogs : (s.locate name).logs = [] := by rw [hlocate]
    constructor
    · intro l' hl'
      rw [<- hasked]
      exact setsAt_of_locate hl' hlogs v
    · intro e he
      rw [hlocate] at he
      cases he

end Shader

/--
On a context and on a recording surface, to set a uniform by name is to look the
name up and to set the uniform at that location.  A context asks the driver
once if the shader has a program, and otherwise nothing is asked.  Setting the
transformation is setting the uniform of that name.
-/
theorem ShaderTable.setUniform_follows_locate (context : Context) (surface : Recording)
    (shader : ShaderTable) (name : String) (v : UniformValue) (m : Matrix Binary32 4 4) :
    (shader.onContext context).FollowsLookup name v
        (if shader.program = 0 then []
          else [.getLocation .uniform shader.program name]) ∧
      (shader.onRecording surface).FollowsLookup name v [] ∧
      (shader.onContext context).setTransform m =
        (shader.onContext context).setUniform "MVP" (.matrix .single .four .four m) ∧
      (shader.onRecording surface).setTransform m =
        (shader.onRecording surface).setUniform "MVP" (.matrix .single .four .four m) := by
  refine ⟨?_, ?_, rfl, rfl⟩
  · exact Shader.followsLookup (shader.locate_onContext_cases context name) v
  · exact Shader.followsLookup (Or.inr ⟨shader.locationOf name, rfl⟩) v

end ShaderUniforms
