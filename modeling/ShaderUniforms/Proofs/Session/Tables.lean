import ShaderUniforms.Proofs.Session.Runs

/-!
# Function tables inside contexts

A context hands on to its table what concerns the optional functions.  Uploads
through them, questions after a symbol and the question for double precision
are answered by the table that was loaded at creation, and nothing is added on
the way.  So a session that needs no more than these can be held on the bare
table, and its transcript is the same.
-/

namespace ShaderUniforms

theorem Context.uniform_of_isExtended {u : Upload} (hextended : u.function.isExtended = true)
    (context : Context) (l : UniformLocation) :
    context.uniform l u = context.table.uniform l u :=
  if_pos hextended

/-- Each step of a table does on a context what it does on the context's table. -/
theorem TableStep.perform_toContextStep (b : ShadedContext) (x : TableStep) :
    x.toContextStep.perform b = x.perform b.context.table := by
  cases x with
  | native l u hextended =>
      show (b.context.uniform l u >>= fun _ => pure Reply.done) = _
      rw [Context.uniform_of_isExtended hextended]
      rfl
  | require symbol => rfl
  | supportsDouble => rfl
  | clone => rfl
  | resume n => rfl

namespace Transcript

theorem ofContext_map_toContextStep (driver : Driver) (settings : Settings)
    (shader : ShaderTable) (steps : List TableStep) :
    ofContext driver settings shader (steps.map TableStep.toContextStep) =
      { ofLoading (settings.loading driver) steps with settings := some settings } := by
  have hanswers : (ofContext driver settings shader
      (steps.map TableStep.toContextStep)).answers =
        (ofLoading (settings.loading driver) steps).answers := by
    rw [answers_ofContext, answers_ofLoading, List.map_map]
    apply List.map_congr_left
    intro x _
    exact x.perform_toContextStep ⟨.create driver settings, shader⟩
  show Transcript.mk _ _ _ (ofContext driver settings shader _).answers = Transcript.mk _ _ _ _
  rw [hanswers]
  rfl

/--
A session about optional functions has the same transcript on a context as on a
bare table, but that a context has settings to tell of: the table loaded from
the same driver if the context looks the functions up, and otherwise the empty
one, for which nothing is looked up.
-/
theorem ofContext_eq_ofLoading (driver : Driver) (shader : ShaderTable)
    (steps : List TableStep) :
    ofContext driver { loadExtended := true } shader (steps.map TableStep.toContextStep) =
        { ofLoading (FunctionTable.load driver) steps with
          settings := some { loadExtended := true } } ∧
      ofContext driver { loadExtended := false } shader
          (steps.map TableStep.toContextStep) =
        { ofLoading {} steps with settings := some { loadExtended := false } } := by
  constructor
  · exact ofContext_map_toContextStep driver { loadExtended := true } shader steps
  · exact ofContext_map_toContextStep driver { loadExtended := false } shader steps

end Transcript

end ShaderUniforms
