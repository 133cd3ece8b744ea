import ShaderUniforms.Session.Transcript

/-!
# Runs of a session

What a step answers depends on the state of the backend and of the journal.  An
invariant says what that state is like between steps: the journals of the surface and
of the session are empty, no call waits to be drained, and every handle stands for
what was opened in the beginning.  Under the invariant a step has the outcome that it
would have in a new session, and the invariant holds again after it.  By induction,
a whole session is answered with the outcomes of its steps.
-/

namespace ShaderUniforms

/-!
## Steps that keep an invariant
-/

namespace Session

variable {beta sigma kappa : Type} [Backend beta sigma kappa]

/-- Under the invariant, steps are answered with their outcomes, and the invariant is kept. -/
structure Steady (invariant : beta -> Prop) (outcome : sigma -> Answer kappa) : Prop where
  answer_eq {b : beta} (hb : invariant b) (x : sigma) :
    (step { backend := b } x).1 = outcome x
  next_eq {b : beta} (hb : invariant b) (x : sigma) :
    exists c : beta, invariant c ∧ (step { backend := b } x).2 = { backend := c }

variable {invariant : beta -> Prop} {outcome : sigma -> Answer kappa}

theorem Steady.run_eq_map (h : Steady invariant outcome) {b : beta} (hb : invariant b)
    (steps : List sigma) : run { backend := b } steps = steps.map outcome := by
  induction steps generalizing b with
  | nil => rfl
  | cons x rest ih =>
      rcases h.next_eq hb x with ⟨c, hc, hnext⟩
      rw [run_cons, h.answer_eq hb, hnext, ih hc, List.map_cons]

end Session

/-!
## Recording surfaces
-/

/-- Between steps, the journal of the surface is empty. -/
theorem RecordingBackend.steady (shader : ShaderTable) :
    Session.Steady (fun b : RecordingBackend => b = { shader := shader })
      (SurfaceStep.perform (shader.onRecording {})) where
  answer_eq := by
    intro b hb x
    rw [hb]
    rfl
  next_eq := by
    intro b hb x
    rw [hb]
    exact ⟨_, rfl, rfl⟩

/-!
## Handles
-/

namespace Handles

variable {alpha : Type}

/-- Every handle stands for the given thing, the one in use and all others. -/
def StandFor (h : Handles alpha) (x : alpha) : Prop :=
  forall y, y ∈ h.all -> y = x

variable {h : Handles alpha} {x : alpha}

theorem single_standFor (x : alpha) : (single x).StandFor x := by
  intro y hy
  exact List.mem_singleton.mp hy

theorem StandFor.get_eq (hx : h.StandFor x) : h.get = x :=
  hx _ (List.get_mem h.all h.current)

theorem StandFor.clone (hx : h.StandFor x) {copy : alpha -> alpha} (hcopy : copy x = x) :
    (h.clone copy).StandFor x := by
  intro y hy
  rcases List.mem_append.mp hy with hold | hnew
  · exact hx y hold
  · rw [List.mem_singleton.mp hnew, hx.get_eq, hcopy]

theorem StandFor.resume (hx : h.StandFor x) (n : Nat) : (h.resume n).StandFor x := by
  unfold Handles.resume
  by_cases hn : n < h.all.length
  · rw [dif_pos hn]
    exact hx
  · rw [dif_neg hn]
    exact hx

theorem StandFor.move (hx : h.StandFor x) {copy : alpha -> alpha} (hcopy : copy x = x)
    (m : HandleMove) : (h.move copy m).StandFor x := by
  cases m with
  | stay => exact hx
  | clone => exact hx.clone hcopy
  | resume n => exact hx.resume n

end Handles

/-- Between steps, all handles stand for the same thing and no call is waiting. -/
structure HandleBackend.Ready {alpha : Type} (x : alpha) (b : HandleBackend alpha) : Prop where
  handles : b.handles.StandFor x
  issued_eq : b.issued = {}

namespace HandleBackend

variable {alpha : Type} {x : alpha}

theorem single_ready (x : alpha) : (single x).Ready x where
  handles := Handles.single_standFor x
  issued_eq := rfl

/-- A step leaves just its own calls to be drained, and is ready for the next one then. -/
theorem Ready.after {b : HandleBackend alpha} (hb : b.Ready x) {copy : alpha -> alpha}
    (hcopy : copy x = x) (o : Outcome NativeCall Reply) (m : HandleMove) :
    (b.after copy o m).2.drain.1 = o.calls ∧ (b.after copy o m).2.drain.2.Ready x := by
  constructor
  · show (b.issued.append o.calls).entries = o.calls
    rw [hb.issued_eq]
    rfl
  · constructor
    · exact hb.handles.move hcopy m
    · rfl

end HandleBackend

/-- Steps of any kind are steady if copies are what they were copied from. -/
theorem HandleBackend.steady {alpha sigma : Type} [Backend (HandleBackend alpha) sigma NativeCall]
    (copy : alpha -> alpha) (outcome : alpha -> sigma -> Answer NativeCall)
    (move : sigma -> HandleMove)
    (hperform : forall (b : HandleBackend alpha) (x : sigma),
      Backend.perform b x = b.after copy (outcome b.handles.get x) (move x))
    (hdrain : forall b : HandleBackend alpha, Backend.drain b = b.drain)
    {y : alpha} (hcopy : copy y = y) :
    Session.Steady (HandleBackend.Ready y) (outcome y) where
  answer_eq := by
    intro b hb x
    have hcalls := (hb.after hcopy (outcome y x) (move x)).left
    rw [Session.step_mk, hperform, hdrain, hb.handles.get_eq, hcalls]
    rfl
  next_eq := by
    intro b hb x
    have hready := (hb.after hcopy (outcome y x) (move x)).right
    rw [Session.step_mk, hperform, hdrain, hb.handles.get_eq]
    exact ⟨_, hready, rfl⟩

/-- A copied handle stands for the same context, with the table that was loaded for it. -/
theorem ShadedContext.steady (b : ShadedContext) :
    Session.Steady (HandleBackend.Ready b) (ContextStep.perform b) := by
  have hclone : b.clone = b := rfl
  exact HandleBackend.steady ShadedContext.clone ContextStep.perform ContextStep.move
    (fun _ _ => rfl) (fun _ => rfl) hclone

theorem FunctionTable.steady (table : FunctionTable) :
    Session.Steady (HandleBackend.Ready table) (TableStep.perform table) := by
  have hclone : table.clone = table := rfl
  exact HandleBackend.steady FunctionTable.clone TableStep.perform TableStep.move
    (fun _ _ => rfl) (fun _ => rfl) hclone

/-!
## Transcripts
-/

namespace Transcript

theorem answers_ofContext (driver : Driver) (settings : Settings) (shader : ShaderTable)
    (steps : List ContextStep) :
    (ofContext driver settings shader steps).answers =
      steps.map (ContextStep.perform ⟨.create driver settings, shader⟩) :=
  (ShadedContext.steady ⟨.create driver settings, shader⟩).run_eq_map
    (HandleBackend.single_ready _) steps

theorem getElem?_answers_ofContext (driver : Driver) (settings : Settings)
    (shader : ShaderTable) {steps : List ContextStep} {i : Nat} {x : ContextStep}
    (hx : steps[i]? = some x) :
    (ofContext driver settings shader steps).answers[i]? =
      some (x.perform ⟨.create driver settings, shader⟩) := by
  rw [answers_ofContext, List.getElem?_map, hx]
  rfl

theorem answers_ofRecording (shader : ShaderTable) (steps : List SurfaceStep) :
    (ofRecording shader steps).answers =
      steps.map (SurfaceStep.perform (shader.onRecording {})) :=
  (RecordingBackend.steady shader).run_eq_map rfl steps

theorem answers_ofLoading (loading : Loading) (steps : List TableStep) :
    (ofLoading loading steps).answers = steps.map (TableStep.perform loading.table) :=
  (FunctionTable.steady loading.table).run_eq_map (HandleBackend.single_ready _) steps

end Transcript

end ShaderUniforms
