import Mathlib.Data.List.InsertIdx
import ShaderUniforms.Proofs.Session.Runs

/-!
# Sessions without a history

A step of a session is answered as if it were the only one.  What came before it,
whether it succeeded, failed or logged, leaves nothing in the state that an answer
could depend on: its calls have been drained and its events taken out, and whatever
handles have been made stand for the same context or table.  So steps can change
places, be left out or be repeated, and their answers follow them.

In particular it makes no difference on which of several copies a step is taken.  If
the steps that copy a handle or go on with another one are left out, all other steps
are taken on a single handle, and they are answered as before.
-/

namespace ShaderUniforms

variable {sigma kappa : Type}

/-!
## Answers that follow their steps
-/

/-- How sessions answer lists of steps, if no answer depends on another step. -/
structure HistoryFree (answers : List sigma -> List (Answer kappa)) : Prop where
  length_eq : forall steps : List sigma, (answers steps).length = steps.length
  /-- A step is answered as in a session that consists of nothing else. -/
  alone : forall (steps : List sigma) (i : Nat) (x : sigma), steps[i]? = some x ->
    exists answer, answers [x] = [answer] ∧ (answers steps)[i]? = some answer
  /-- Steps are taken from the given positions, in the given order. -/
  rearranged : forall (steps : List sigma) (positions : List Nat),
    answers (positions.filterMap fun i => steps[i]?) =
      positions.filterMap fun i => (answers steps)[i]?
  /-- A step is left out. -/
  erased : forall (steps : List sigma) (i : Nat),
    answers (steps.eraseIdx i) = (answers steps).eraseIdx i

theorem HistoryFree.of_map {answers : List sigma -> List (Answer kappa)}
    {perform : sigma -> Answer kappa} (h : forall steps, answers steps = steps.map perform) :
    HistoryFree answers where
  length_eq := by
    intro steps
    rw [h, List.length_map]
  alone := by
    intro steps i x hx
    exists perform x
    constructor
    · exact h [x]
    · rw [h, List.getElem?_map, hx]
      rfl
  rearranged := by
    intro steps positions
    rw [h, h, List.map_filterMap]
    congr 1
    funext i
    exact List.getElem?_map.symm
  erased := by
    intro steps i
    rw [h, h]
    exact (List.eraseIdx_map perform steps i).symm

/-!
## Steps on copies
-/

/-- A step that is taken on the handle in use, whichever it is, and leaves it in use. -/
def stays (move : sigma -> HandleMove) (x : sigma) : Bool :=
  move x == .stay

/-- The answers to those steps that are taken on a handle. -/
def answersOfStaying (move : sigma -> HandleMove) (steps : List sigma)
    (answers : List (Answer kappa)) : List (Answer kappa) :=
  ((steps.zip answers).filter fun answered => stays move answered.1).map Prod.snd

theorem answersOfStaying_map (move : sigma -> HandleMove) (perform : sigma -> Answer kappa)
    (steps : List sigma) :
    answersOfStaying move steps (steps.map perform) =
      (steps.filter (stays move)).map perform := by
  have hzip : steps.zip (steps.map perform) = steps.map fun x => (x, perform x) := by
    rw [<- List.zip_map', List.map_id']
  unfold answersOfStaying
  rw [hzip, List.filter_map, List.map_map]
  rfl

/-!
## Transcripts
-/

namespace Transcript

/--
On every backend, each step is answered as in a new session of its own, whatever
was done before.  On a context or a function table, the steps that are spread over
copies of it are answered like the same steps on the only handle.
-/
theorem answers_historyFree (driver : Driver) (settings : Settings) (shader : ShaderTable)
    (loading : Loading) :
    HistoryFree (fun steps => (ofContext driver settings shader steps).answers) ∧
    HistoryFree (fun steps => (ofRecording shader steps).answers) ∧
    HistoryFree (fun steps => (ofLoading loading steps).answers) ∧
    (forall steps : List ContextStep,
      answersOfStaying ContextStep.move steps (ofContext driver settings shader steps).answers =
        (ofContext driver settings shader (steps.filter (stays ContextStep.move))).answers) ∧
    (forall steps : List TableStep,
      answersOfStaying TableStep.move steps (ofLoading loading steps).answers =
        (ofLoading loading (steps.filter (stays TableStep.move))).answers) := by
  refine ⟨?_, ?_, ?_, ?_, ?_⟩
  · exact HistoryFree.of_map (answers_ofContext driver settings shader)
  · exact HistoryFree.of_map (answers_ofRecording shader)
  · exact HistoryFree.of_map (answers_ofLoading loading)
  · intro steps
    rw [answers_ofContext, answers_ofContext]
    exact answersOfStaying_map ContextStep.move _ steps
  · intro steps
    rw [answers_ofLoading, answers_ofLoading]
    exact answersOfStaying_map TableStep.move _ steps

end Transcript

end ShaderUniforms
