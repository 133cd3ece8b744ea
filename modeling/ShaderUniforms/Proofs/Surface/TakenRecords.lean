import ShaderUniforms.Native.Reading
import ShaderUniforms.Proofs.Session.Runs

/-!
# Records taken out in parts

A recording surface writes its records into a journal, from which they are taken
out from time to time.  However the takings are spread among the requests, the
parts that were taken make up the whole record when they are put together: one
entry for each request, in order, and from each entry the request can be read back
with all that was passed along.
-/

namespace ShaderUniforms

namespace Recording

/-!
## Requests
-/

/-- An operation of a surface, with everything that is passed to it. -/
inductive Request where
  | scalar (e : Element) (l : UniformLocation) (x : e.Val)
  | vector (e : Element) (n : Dim) (l : UniformLocation) (xs : List e.Val)
  | matrix (p : Precision) (c r : Dim) (l : UniformLocation) (transpose : Bool)
      (xs : List p.Val)
  | bindTexture (target : TextureTarget) (id : UInt32)

namespace Request

def toStep : Request -> SurfaceStep
  | scalar e l x => .native l (.scalar e x)
  | vector e n l xs => .native l (.vector e n xs)
  | matrix p c r l t xs => .native l (.matrix p c r t xs)
  | bindTexture target id => .bindDirect target id

/-- What a recording surface is left as when it has been asked. -/
def perform (q : Request) (surface : Recording) : Recording :=
  (Backend.perform ({ surface := surface } : RecordingBackend) q.toStep).2.surface

/-- The whole request in writing. Only matrices have a flag. -/
def record : Request -> RecordedCall
  | scalar e l x => .uniform (.scalar e) l.value none ⟨e, [x]⟩
  | vector e n l xs => .uniform (.vector e n) l.value none ⟨e, xs⟩
  | matrix p c r l t xs => .uniform (.matrix p c r) l.value (some t) ⟨p.element, xs⟩
  | bindTexture target id => .bindTexture target id

/-- A request succeeds, and its record is written behind what is there. -/
theorem perform_toStep (b : RecordingBackend) (q : Request) :
    Backend.perform b q.toStep =
      ({ result := .ok .done, logs := [] }, { b with surface := b.surface.write [q.record] }) := by
  cases q <;> rfl

theorem perform_eq (q : Request) (surface : Recording) :
    q.perform surface = surface.write [q.record] := by
  unfold perform
  rw [perform_toStep]

end Request

end Recording

/-!
### Reading records
-/

namespace RecordedCall

open Recording

/-- The request that is told of, for which the name of its operation is looked up. -/
def request? : RecordedCall -> Option Request
  | uniform f l t xs => do
      match (<- UniformFunction.ofName? f.name), t with
      | .scalar e, none =>
          match (<- xs.as? e) with
          | [x] => some (.scalar e ⟨l⟩ x)
          | _ => none
      | .vector e n, none => some (.vector e n ⟨l⟩ (<- xs.as? e))
      | .matrix p c r, some t => some (.matrix p c r ⟨l⟩ t (<- xs.as? p.element))
      | _, _ => none
  | bindTexture target id => some (.bindTexture target id)

theorem request?_record (q : Request) : q.record.request? = some q := by
  cases q with
  | scalar e l x => simp [Request.record, request?, UniformFunction.ofName?_name]
  | vector e n l xs => simp [Request.record, request?, UniformFunction.ofName?_name]
  | matrix p c r l t xs => simp [Request.record, request?, UniformFunction.ofName?_name]
  | bindTexture target id => rfl

end RecordedCall

namespace Recording

/-!
## Requests and takings
-/

inductive Use where
  | request (q : Request)
  | take

def requests : List Use -> List Request
  | [] => []
  | .request q :: rest => q :: requests rest
  | .take :: rest => requests rest

/-- The parts that are taken out in the course of the uses, and the surface after them. -/
def run (surface : Recording) : List Use -> List (List RecordedCall) × Recording
  | [] => ([], surface)
  | .request q :: rest => run (q.perform surface) rest
  | .take :: rest =>
      let (part, left) := surface.take
      let (parts, last) := run left rest
      (part :: parts, last)

section Equations

variable (surface : Recording) (rest : List Use)

@[simp] theorem run_nil : run surface [] = ([], surface) :=
  rfl

theorem run_request (q : Request) :
    run surface (.request q :: rest) = run (surface.write [q.record]) rest := by
  rw [<- q.perform_eq]
  rfl

theorem run_take :
    run surface (.take :: rest) =
      (surface.journal.entries :: (run {} rest).1, (run {} rest).2) :=
  rfl

end Equations

theorem run_append (surface : Recording) (uses more : List Use) :
    run surface (uses ++ more) =
      ((run surface uses).1 ++ (run (run surface uses).2 more).1,
        (run (run surface uses).2 more).2) := by
  induction uses generalizing surface with
  | nil => rfl
  | cons x rest ih =>
      cases x with
      | request q => rw [List.cons_append, run_request, run_request, ih]
      | take =>
          rw [List.cons_append, run_take, run_take, ih]
          rfl

/-- What was taken out and what is left make up what was there and what was asked for. -/
theorem flatten_run_append_left (surface : Recording) (uses : List Use) :
    (run surface uses).1.flatten ++ (run surface uses).2.journal.entries =
      surface.journal.entries ++ (requests uses).map Request.record := by
  induction uses generalizing surface with
  | nil =>
      show surface.journal.entries = surface.journal.entries ++ []
      rw [List.append_nil]
  | cons x rest ih =>
      cases x with
      | request q =>
          rw [run_request, ih]
          show surface.journal.entries ++ [q.record] ++ (requests rest).map Request.record = _
          rw [List.append_assoc]
          rfl
      | take =>
          have hrest := ih {}
          rw [run_take]
          show surface.journal.entries ++ (run {} rest).1.flatten ++
            (run {} rest).2.journal.entries =
              surface.journal.entries ++ (requests rest).map Request.record
          rw [List.append_assoc, hrest]
          rfl

theorem flatten_run_take (uses : List Use) :
    (run {} (uses ++ [.take])).1.flatten = (requests uses).map Request.record := by
  rw [run_append, run_take, List.flatten_append]
  show (run {} uses).1.flatten ++ ((run {} uses).2.journal.entries ++ []) = _
  rw [List.append_nil, flatten_run_append_left]
  rfl

/-- Nothing is left to take right after a taking. -/
theorem getElem?_run_take_take (surface : Recording) (before after : List Use) :
    (run surface (before ++ .take :: .take :: after)).1[(run surface before).1.length + 1]? =
      some [] := by
  rw [run_append, run_take, run_take, List.getElem?_append_right (Nat.le_add_right _ 1),
    Nat.add_sub_cancel_left]
  rfl

/-- In a session, each step is followed by a taking. -/
theorem calls_run_session (b : RecordingBackend) (qs : List Request) :
    (Session.run { backend := b } (qs.map Request.toStep)).map Outcome.calls =
      (run b.surface (qs.flatMap fun q => [.request q, .take])).1 := by
  induction qs generalizing b with
  | nil => rfl
  | cons q rest ih =>
      have hstep : Session.step { backend := b } q.toStep =
          ({ result := .ok .done, calls := b.surface.journal.entries ++ [q.record] },
            { backend := { b with surface := {} } }) := by
        rw [Session.step_mk, q.perform_toStep]
        rfl
      rw [List.map_cons, Session.run_cons, hstep, List.map_cons, ih, List.flatMap_cons]
      show _ = (run b.surface (.request q :: .take :: _)).1
      rw [run_request, run_take]
      rfl

/--
However requests and takings alternate, the parts that are taken out, the last one
included, make up a record of the requests: one entry for each, in order, from
which the request can be read back.  A taking right after another one gives
nothing.  The calls that the steps of a session answer with are such parts, too,
whatever has been recorded before it.
-/
theorem run_keeps_requests (uses : List Use) :
    (run {} (uses ++ [.take])).1.flatten = (requests uses).map Request.record ∧
      (run {} (uses ++ [.take])).1.flatten.map RecordedCall.request? =
        (requests uses).map some ∧
      (forall before after : List Use,
        (run {} (before ++ .take :: .take :: after)).1[(run {} before).1.length + 1]? =
          some []) ∧
      forall (b : RecordingBackend) (qs : List Request),
        (Session.run { backend := b } (qs.map Request.toStep)).map Outcome.calls =
          (run b.surface (qs.flatMap fun q => [.request q, .take])).1 := by
  constructor
  · exact flatten_run_take uses
  constructor
  · rw [flatten_run_take, List.map_map]
    apply List.map_congr_left
    intro q _
    exact RecordedCall.request?_record q
  constructor
  · exact getElem?_run_take_take {}
  · exact calls_run_session

end Recording

end ShaderUniforms
