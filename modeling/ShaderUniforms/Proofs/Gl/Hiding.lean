import ShaderUniforms.Proofs.Gl.Availability
import ShaderUniforms.Proofs.Gl.Calls
import ShaderUniforms.Proofs.Session.Steps

/-!
# Hidden functions

Two contexts differ in that the driver of the second one hides more functions.
What is left of an operation on the second?  Either nothing is missed, or an
upload is skipped and logged and all else goes on, or the operation aborts at
the first function that is missed.  The three cases are one relation between
outcomes, which composition respects.
-/

namespace ShaderUniforms

/-!
## Drivers
-/

namespace Driver

/-- The driver without the functions of the given symbols. -/
def hide (driver : Driver) (hidden : List String) : Driver where
  exposes symbol := driver.exposes symbol && !hidden.contains symbol
  locate := driver.locate
  binding := driver.binding

theorem ofTables_eq_hide (hidden : List String) (programs : List LinkedProgram) :
    ofTables hidden programs = (ofTables [] programs).hide hidden := by
  simp [ofTables, hide]

variable {driver : Driver} {hidden more : List String} {symbol : String}

theorem exposes_hide_iff :
    (driver.hide hidden).exposes symbol = true <->
      driver.exposes symbol = true ∧ symbol ∉ hidden := by
  simp [hide]

theorem exposes_hide_mono (hsubset : hidden ⊆ more)
    (hmore : (driver.hide more).exposes symbol = true) :
    (driver.hide hidden).exposes symbol = true := by
  have h := exposes_hide_iff.mp hmore
  apply exposes_hide_iff.mpr
  constructor
  · exact h.left
  · intro hmem
    exact h.right (hsubset hmem)

theorem newly_hidden (hhidden : (driver.hide hidden).exposes symbol = true)
    (hmore : ¬ (driver.hide more).exposes symbol = true) :
    symbol ∈ more ∧ symbol ∉ hidden := by
  have h := exposes_hide_iff.mp hhidden
  constructor
  · apply Decidable.byContradiction
    intro hmem
    exact hmore (exposes_hide_iff.mpr ⟨h.left, hmem⟩)
  · exact h.right

end Driver

namespace Settings

variable {settings : Settings} {driver : Driver} {hidden more : List String}
  {f : UniformFunction}

theorem Offers.hide_mono (hsubset : hidden ⊆ more)
    (hoffers : settings.Offers (driver.hide more).exposes f) :
    settings.Offers (driver.hide hidden).exposes f :=
  ⟨Driver.exposes_hide_mono hsubset hoffers.left, hoffers.right⟩

theorem Offers.newly_hidden (hhidden : settings.Offers (driver.hide hidden).exposes f)
    (hmore : ¬ settings.Offers (driver.hide more).exposes f) :
    f.symbol ∈ more ∧ f.symbol ∉ hidden := by
  apply Driver.newly_hidden hhidden.left
  intro hexposes
  exact hmore ⟨hexposes, hhidden.right⟩

end Settings

/-!
## Outcomes
-/

namespace Outcome

/-- The outcome tells that the function of the symbol is missing. -/
def Reports {kappa alpha : Type} (o : Outcome kappa alpha) (symbol : String) : Prop :=
  (exists fault : Fault, o.result = .error (.aborted fault) ∧
    fault.message = "called " ++ symbol ++ " but it was not loaded.") ∨
  (exists event, event ∈ o.logs ∧ event.level = .error ∧
    event.text = symbol ++
      " is not available in the current GL context, uniform upload skipped")

/-- What is left of an outcome where more functions are hidden. -/
inductive Remains (hidden more : List String) {alpha : Type}
    (before after : Outcome NativeCall alpha) : Prop where
  /-- No call needs a function that is hidden. -/
  | whole (hcalls : forall c, c ∈ before.calls -> c.symbol ∉ more) (heq : after = before)
  /-- An upload is skipped, and all else goes on. -/
  | skipped (f : UniformFunction) (hnew : f.symbol ∈ more ∧ f.symbol ∉ hidden)
      (hresult : after.result = before.result)
      (hcalls : after.calls = before.calls.filter fun c => c.symbol ∉ more)
      (hlog : LogEvent.uploadSkipped f ∈ after.logs)
  /-- A call cannot be made, and nothing that comes after it is done. -/
  | aborted (done rest : List NativeCall) (c : NativeCall)
      (hnew : c.symbol ∈ more ∧ c.symbol ∉ hidden)
      (hbefore : before.calls = done ++ c :: rest)
      (hcalls : after.calls = done.filter fun d => d.symbol ∉ more)
      (hresult : after.result = .error (.aborted (.notLoaded c.function)))

namespace Remains

variable {hidden more : List String} {alpha beta : Type}
  {before after : Outcome NativeCall alpha}

theorem refl_of_no_calls {o : Outcome NativeCall alpha} (hcalls : o.calls = []) :
    o.Remains hidden more o := by
  apply whole
  · intro c hc
    rw [hcalls] at hc
    exact absurd hc List.not_mem_nil
  · rfl

theorem filter_of_whole {calls : List NativeCall}
    (hcalls : forall c, c ∈ calls -> c.symbol ∉ more) :
    (calls.filter fun c => c.symbol ∉ more) = calls := by
  apply List.filter_eq_self.mpr
  intro c hc
  exact decide_eq_true (hcalls c hc)

theorem calls_sublist (h : before.Remains hidden more after) :
    after.calls.Sublist before.calls := by
  cases h with
  | whole hcalls heq =>
      cases heq
      exact List.Sublist.refl _
  | skipped f hnew hresult hcalls hlog =>
      rw [hcalls]
      exact List.filter_sublist
  | aborted done rest c hnew hbefore hcalls hresult =>
      rw [hcalls, hbefore]
      exact List.filter_sublist.trans (List.sublist_append_left done (c :: rest))

theorem calls_eq_filter (h : before.Remains hidden more after)
    (hlength : before.calls.length ≤ 1) :
    after.calls = before.calls.filter fun c => c.symbol ∉ more := by
  cases h with
  | whole hcalls heq => rw [heq, filter_of_whole hcalls]
  | skipped f hnew hresult hcalls hlog => exact hcalls
  | aborted done rest c hnew hbefore hcalls hresult =>
      -- There is no room for calls beside the one that is missed.
      rw [hbefore, List.length_append, List.length_cons] at hlength
      have hdone : done = [] := List.eq_nil_of_length_eq_zero (by omega)
      have hrest : rest = [] := List.eq_nil_of_length_eq_zero (by omega)
      rw [hcalls, hbefore, hdone, hrest]
      simp [hnew.left]

theorem reports (h : before.Remains hidden more after) (hne : after ≠ before) :
    exists symbol, symbol ∈ more ∧ symbol ∉ hidden ∧ after.Reports symbol := by
  cases h with
  | whole hcalls heq => exact absurd heq hne
  | skipped f hnew hresult hcalls hlog =>
      exact ⟨f.symbol, hnew.left, hnew.right, Or.inr ⟨_, hlog, rfl, rfl⟩⟩
  | aborted done rest c hnew hbefore hcalls hresult =>
      exact ⟨c.symbol, hnew.left, hnew.right, Or.inl ⟨_, hresult, rfl⟩⟩

/-!
### Composition
-/

section Bind

variable {next follow : alpha -> Outcome NativeCall beta}

theorem bind_of_whole (hcalls : forall c, c ∈ before.calls -> c.symbol ∉ more)
    (hnext : forall x, before.result = .ok x -> (next x).Remains hidden more (follow x)) :
    (before >>= next).Remains hidden more (before >>= follow) := by
  cases hbefore : before.result with
  | error e =>
      rw [bind_eq_of_error hbefore, bind_eq_of_error hbefore]
      exact whole hcalls rfl
  | ok x =>
      rw [bind_eq_of_ok hbefore, bind_eq_of_ok hbefore]
      cases hnext x hbefore with
      | whole hrest heq =>
          apply whole
          · intro c hc
            rcases List.mem_append.mp hc with hc | hc
            · exact hcalls c hc
            · exact hrest c hc
          · rw [heq]
      | skipped f hnew hresult hrest hlog =>
          apply skipped f hnew
          · exact hresult
          · rw [List.filter_append, filter_of_whole hcalls, hrest]
          · exact List.mem_append_right before.logs hlog
      | aborted done rest c hnew hdone hrest hresult =>
          apply aborted (before.calls ++ done) rest c hnew
          · rw [hdone, List.append_assoc]
          · rw [List.filter_append, filter_of_whole hcalls, hrest]
          · exact hresult

theorem bind_of_skipped {f : UniformFunction}
    (hnew : f.symbol ∈ more ∧ f.symbol ∉ hidden)
    (hresult : after.result = before.result)
    (hcalls : after.calls = before.calls.filter fun c => c.symbol ∉ more)
    (hlog : LogEvent.uploadSkipped f ∈ after.logs)
    (hnext : forall x, before.result = .ok x -> (next x).Remains hidden more (follow x)) :
    (before >>= next).Remains hidden more (after >>= follow) := by
  cases hbefore : before.result with
  | error e =>
      rw [bind_eq_of_error hbefore, bind_eq_of_error (hresult.trans hbefore)]
      exact skipped f hnew rfl hcalls hlog
  | ok x =>
      rw [bind_eq_of_ok hbefore, bind_eq_of_ok (hresult.trans hbefore)]
      cases hnext x hbefore with
      | whole hrest heq =>
          apply skipped f hnew
          · rw [heq]
          · rw [List.filter_append, filter_of_whole hrest, hcalls, heq]
          · exact List.mem_append_left (follow x).logs hlog
      | skipped _ _ hresult' hrest _ =>
          apply skipped f hnew
          · exact hresult'
          · rw [List.filter_append, hcalls, hrest]
          · exact List.mem_append_left (follow x).logs hlog
      | aborted done rest c hnew' hdone hrest hresult' =>
          apply aborted (before.calls ++ done) rest c hnew'
          · rw [hdone, List.append_assoc]
          · rw [List.filter_append, hcalls, hrest]
          · exact hresult'

theorem bind_of_aborted {done rest : List NativeCall} {c : NativeCall}
    (hnew : c.symbol ∈ more ∧ c.symbol ∉ hidden)
    (hbefore : before.calls = done ++ c :: rest)
    (hcalls : after.calls = done.filter fun d => d.symbol ∉ more)
    (hresult : after.result = .error (.aborted (.notLoaded c.function))) :
    (before >>= next).Remains hidden more (after >>= follow) := by
  rw [bind_eq_of_error hresult]
  cases hfirst : before.result with
  | error e =>
      rw [bind_eq_of_error hfirst]
      exact aborted done rest c hnew hbefore hcalls rfl
  | ok x =>
      rw [bind_eq_of_ok hfirst]
      apply aborted done (rest ++ (next x).calls) c hnew
      · rw [hbefore, List.append_assoc, List.cons_append]
      · exact hcalls
      · rfl

end Bind

theorem compositional (hidden more : List String) :
    Compositional fun _ => Remains hidden more where
  of_pure _ := refl_of_no_calls rfl
  of_fail _ := refl_of_no_calls rfl
  of_log _ := refl_of_no_calls rfl
  of_bind := by
    intro _ _ before after next follow hfirst hnext
    cases hfirst with
    | whole hcalls heq =>
        rw [heq]
        exact bind_of_whole hcalls hnext
    | skipped f hnew hresult hcalls hlog =>
        exact bind_of_skipped hnew hresult hcalls hlog hnext
    | aborted done rest c hnew hbefore hcalls hresult =>
        exact bind_of_aborted hnew hbefore hcalls hresult

end Remains

end Outcome

/-!
## Operations on a context

A context makes a call if its function is there, and otherwise does something in
its stead, which is the same on every context.
-/

namespace Outcome

/-- What is done in the stead of a call whose function is missing. -/
inductive StandsIn (c : NativeCall) : Outcome NativeCall Unit -> Prop where
  | skipped (f : UniformFunction) (hfunction : c.function = .uniform f) :
      StandsIn c (log (.uploadSkipped f))
  | aborted : StandsIn c (fail (.aborted (.notLoaded c.function)))

theorem Remains.of_call {hidden more : List String} {c : NativeCall}
    {missing : Outcome NativeCall Unit} (hmissing : StandsIn c missing)
    {before after : Prop} [Decidable before] [Decidable after]
    (hmono : after -> before) (hkept : after -> c.symbol ∉ more)
    (hnew : before -> ¬ after -> c.symbol ∈ more ∧ c.symbol ∉ hidden) :
    (if before then call c else missing).Remains hidden more
      (if after then call c else missing) := by
  by_cases hafter : after
  · rw [if_pos hafter, if_pos (hmono hafter)]
    apply whole
    · intro d hd
      rw [List.mem_singleton.mp hd]
      exact hkept hafter
    · rfl
  · rw [if_neg hafter]
    by_cases hbefore : before
    · have hsymbol := hnew hbefore hafter
      rw [if_pos hbefore]
      cases hmissing with
      | skipped f hfunction =>
          have hf : c.symbol = f.symbol := congrArg NativeFunction.symbol hfunction
          apply skipped f (hf ▸ hsymbol)
          · rfl
          · simp [call, log, hsymbol.left]
          · exact List.mem_singleton.mpr rfl
      | aborted => exact aborted [] [] c hsymbol rfl rfl rfl
    · rw [if_neg hbefore]
      cases hmissing with
      | skipped f hfunction => exact refl_of_no_calls rfl
      | aborted => exact refl_of_no_calls rfl

end Outcome

namespace Context

section Hiding

variable {hidden more : List String} (hsubset : hidden ⊆ more) (driver : Driver)
  (settings : Settings)

include hsubset

theorem issue_remains (c : NativeCall) :
    ((create (driver.hide hidden) settings).issue c).Remains hidden more
      ((create (driver.hide more) settings).issue c) := by
  rw [issue_eq, issue_eq]
  apply Outcome.Remains.of_call
  · exact .aborted
  · exact Driver.exposes_hide_mono hsubset
  · intro hmore
    exact (Driver.exposes_hide_iff.mp hmore).right
  · exact Driver.newly_hidden

theorem uniform_remains (l : UniformLocation) (u : Upload) :
    ((create (driver.hide hidden) settings).uniform l u).Remains hidden more
      ((create (driver.hide more) settings).uniform l u) := by
  have hfunction := u.function_toCall ((driver.hide hidden).countRule u.function) l
  have hsymbol := u.symbol_toCall ((driver.hide hidden).countRule u.function) l
  rw [uniform_create_eq, uniform_create_eq]
  apply Outcome.Remains.of_call
  · by_cases hextended : u.function ∈ UniformFunction.extended
    · rw [if_pos hextended]
      exact .skipped u.function hfunction
    · rw [if_neg hextended, <- hfunction]
      exact .aborted
  · exact Settings.Offers.hide_mono hsubset
  · intro hmore
    rw [hsymbol]
    exact (Driver.exposes_hide_iff.mp hmore.left).right
  · rw [hsymbol]
    exact Settings.Offers.newly_hidden

theorem useProgram_remains (p : Option Program) :
    ((create (driver.hide hidden) settings).useProgram p).Remains hidden more
      ((create (driver.hide more) settings).useProgram p) :=
  issue_remains hsubset driver settings (.useProgram (p.elim 0 Program.id))

theorem locate_remains (k : Variable) (p : Program) (name : String) :
    ((create (driver.hide hidden) settings).locate k p name).Remains hidden more
      ((create (driver.hide more) settings).locate k p name) := by
  cases hnul : nulPosition? name with
  | some position =>
      rw [locate_of_nul hnul, locate_of_nul hnul]
      exact .refl_of_no_calls rfl
  | none =>
      have hR := Outcome.Remains.compositional hidden more
      rw [locate_of_no_nul hnul, locate_of_no_nul hnul]
      apply hR.of_bind
      · exact issue_remains hsubset driver settings (.getLocation k p.id name)
      · intro _ _
        exact hR.of_pure _

end Hiding

end Context

end ShaderUniforms
