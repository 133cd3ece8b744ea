import ShaderUniforms.Outcome

/-!
# Outcomes under a translation of calls

Two systems that make calls of different types are compared by translating the
calls of one into calls of the other.  Each call changes where it stands: the
result and the log events stay, and no call is added, dropped or moved.  A
translation respects the order in which operations are composed, so that whole
operations can be compared through their parts.
-/

namespace ShaderUniforms

universe u v

namespace Outcome

variable {kappa mu : Type u} {alpha beta : Type v}

/-- The same outcome with every call translated. -/
def mapCalls (translate : kappa -> mu) (o : Outcome kappa alpha) : Outcome mu alpha where
  result := o.result
  calls := o.calls.map translate
  logs := o.logs

section Equations

variable (translate : kappa -> mu)

@[simp] theorem mapCalls_pure (x : alpha) :
    (pure x : Outcome kappa alpha).mapCalls translate = pure x :=
  rfl

@[simp] theorem mapCalls_fail (e : Failure) :
    (fail e : Outcome kappa alpha).mapCalls translate = fail e :=
  rfl

@[simp] theorem mapCalls_call (c : kappa) :
    (call c).mapCalls translate = call (translate c) :=
  rfl

@[simp] theorem mapCalls_log (event : LogEvent) :
    (log event : Outcome kappa PUnit).mapCalls translate = log event :=
  rfl

theorem mapCalls_bind (o : Outcome kappa alpha) (next : alpha -> Outcome kappa beta) :
    (o >>= next).mapCalls translate =
      o.mapCalls translate >>= fun x => (next x).mapCalls translate := by
  cases hresult : o.result with
  | error e =>
      have htranslated : (o.mapCalls translate).result = .error e := hresult
      rw [bind_eq_of_error hresult, bind_eq_of_error htranslated]
      rfl
  | ok x =>
      have htranslated : (o.mapCalls translate).result = .ok x := hresult
      rw [bind_eq_of_ok hresult, bind_eq_of_ok htranslated]
      simp [mapCalls]

end Equations

/-- How an operation goes on matters for the results that it can have. -/
theorem bind_congr_of_ok {o : Outcome kappa alpha} {next follow : alpha -> Outcome kappa beta}
    (h : forall x, o.result = .ok x -> next x = follow x) : o >>= next = o >>= follow := by
  cases hresult : o.result with
  | error e => rw [bind_eq_of_error hresult, bind_eq_of_error hresult]
  | ok x => rw [bind_eq_of_ok hresult, bind_eq_of_ok hresult, h x hresult]

end Outcome

end ShaderUniforms
