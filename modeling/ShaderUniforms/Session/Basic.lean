import ShaderUniforms.Journal
import ShaderUniforms.Outcome

/-!
# Sessions

A session takes a backend through a list of steps.  A step leaves the backend in a
new state, and the calls that it has made stay with the backend, where they are
drained once the step is over.  Log events go to a journal of the session, which is
emptied at the same time.  So each answer is to hold what its own step has written.
A step that fails does not end the session.
-/

namespace ShaderUniforms

/-- What a step answers if it does not fail. -/
inductive Reply where
  | done
  | location (k : Variable) (l : Location k)
  | flag (b : Bool)
  deriving DecidableEq

abbrev Answer (kappa : Type) :=
  Outcome kappa Reply

/-- What is known at once when a step is over. Its calls have yet to be drained. -/
structure Response where
  result : Except Failure Reply
  logs : List LogEvent

def Outcome.response {kappa : Type} (o : Outcome kappa Reply) : Response where
  result := o.result
  logs := o.logs

/-- A backend takes steps of type `sigma` and makes calls of type `kappa`. -/
class Backend (beta : Type) (sigma kappa : outParam Type) where
  perform : beta -> sigma -> Response × beta
  /-- The calls that have been made and not been drained before. -/
  drain : beta -> List kappa × beta

structure Session (beta : Type) where
  backend : beta
  logs : Journal LogEvent := {}

namespace Session

variable {beta sigma kappa : Type} [Backend beta sigma kappa]

/-- Takes one step, drains its calls and empties the journal into its answer. -/
def step (s : Session beta) (x : sigma) : Answer kappa × Session beta :=
  let (response, performed) := Backend.perform s.backend x
  let (calls, drained) := Backend.drain performed
  let (logs, left) := (s.logs.append response.logs).take
  ({ result := response.result, calls := calls, logs := logs },
    { backend := drained, logs := left })

theorem step_mk (b : beta) (x : sigma) :
    step { backend := b } x =
      ({ result := (Backend.perform b x).1.result
         calls := (Backend.drain (Backend.perform b x).2).1
         logs := (Backend.perform b x).1.logs },
        { backend := (Backend.drain (Backend.perform b x).2).2 }) :=
  rfl

def run (s : Session beta) : List sigma -> List (Answer kappa)
  | [] => []
  | x :: rest =>
      let (answer, next) := s.step x
      answer :: next.run rest

@[simp] theorem run_nil (s : Session beta) : s.run [] = [] :=
  rfl

theorem run_cons (s : Session beta) (x : sigma) (rest : List sigma) :
    s.run (x :: rest) = (s.step x).1 :: (s.step x).2.run rest :=
  rfl

end Session

end ShaderUniforms
