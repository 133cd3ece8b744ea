import ShaderUniforms.Log

/-!
# Outcomes

An operation on a surface has an outcome: its result, the calls that it made
and the events that it logged, both in order.  Outcomes are composed in
sequence.  The second operation starts only if the first one succeeded, and
what the first one called and logged stays in any case.
-/

namespace ShaderUniforms

universe u v w

/-- The outcome of an operation that makes calls of type `kappa`. -/
@[ext] structure Outcome (kappa : Type u) (alpha : Type v) where
  result : Except Failure alpha
  calls : List kappa := []
  logs : List LogEvent := []

namespace Outcome

variable {kappa : Type u} {alpha beta : Type v}

protected def pure (x : alpha) : Outcome kappa alpha :=
  { result := .ok x }

protected def bind (o : Outcome kappa alpha) (next : alpha -> Outcome kappa beta) :
    Outcome kappa beta :=
  match o.result with
  | .ok x =>
      { result := (next x).result
        calls := o.calls ++ (next x).calls
        logs := o.logs ++ (next x).logs }
  | .error e =>
      { result := .error e
        calls := o.calls
        logs := o.logs }

instance : Monad (Outcome kappa) where
  pure := Outcome.pure
  bind := Outcome.bind

def call (c : kappa) : Outcome kappa PUnit :=
  { result := .ok ⟨⟩, calls := [c] }

def log (event : LogEvent) : Outcome kappa PUnit :=
  { result := .ok ⟨⟩, logs := [event] }

def fail (e : Failure) : Outcome kappa alpha :=
  { result := .error e }

/-- The outcome of a check that neither calls nor logs. -/
def ofExcept : Except Error alpha -> Outcome kappa alpha
  | .ok x => .pure x
  | .error e => fail (.rejected e)

/-!
## Equations
-/

@[simp] theorem pure_eq (x : alpha) :
    (pure x : Outcome kappa alpha) = { result := .ok x } :=
  rfl

theorem bind_eq_of_ok {o : Outcome kappa alpha} {x : alpha} (h : o.result = .ok x)
    (next : alpha -> Outcome kappa beta) :
    o >>= next =
      { result := (next x).result
        calls := o.calls ++ (next x).calls
        logs := o.logs ++ (next x).logs } := by
  show Outcome.bind o next = _
  simp [Outcome.bind, h]

theorem bind_eq_of_error {o : Outcome kappa alpha} {e : Failure}
    (h : o.result = .error e) (next : alpha -> Outcome kappa beta) :
    o >>= next = { result := .error e, calls := o.calls, logs := o.logs } := by
  show Outcome.bind o next = _
  simp [Outcome.bind, h]

@[simp] theorem pure_bind (x : alpha) (next : alpha -> Outcome kappa beta) :
    (pure x : Outcome kappa alpha) >>= next = next x := by
  rw [bind_eq_of_ok (x := x) rfl]
  simp

@[simp] theorem fail_bind (e : Failure) (next : alpha -> Outcome kappa beta) :
    fail e >>= next = fail e :=
  rfl

theorem call_bind (c : kappa) (next : PUnit -> Outcome kappa beta) :
    call c >>= next =
      { result := (next ⟨⟩).result
        calls := c :: (next ⟨⟩).calls
        logs := (next ⟨⟩).logs } :=
  rfl

theorem log_bind (event : LogEvent) (next : PUnit -> Outcome kappa beta) :
    log event >>= next =
      { result := (next ⟨⟩).result
        calls := (next ⟨⟩).calls
        logs := event :: (next ⟨⟩).logs } :=
  rfl

end Outcome

end ShaderUniforms
