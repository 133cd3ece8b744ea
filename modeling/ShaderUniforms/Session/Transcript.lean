import ShaderUniforms.Session.Backends

/-!
# Transcripts

A whole session in writing: what the creation of its backend looked up and
logged, and the answers to the steps.  The look-ups are those for the table of
optional functions.  What the binding of a context asks the same driver for, when it
loads the other functions, is not written down.
-/

namespace ShaderUniforms

structure Transcript (kappa : Type) where
  /-- The settings of the context, if the backend is one. -/
  settings : Option Settings := none
  lookups : List String := []
  logs : List LogEvent := []
  answers : List (Answer kappa)

namespace Transcript

def ofContext (driver : Driver) (settings : Settings) (shader : ShaderTable)
    (steps : List ContextStep) : Transcript NativeCall :=
  let loading := settings.loading driver
  let backend := HandleBackend.single (ShadedContext.mk (.create driver settings) shader)
  { settings := some settings
    lookups := loading.lookups
    logs := loading.logs
    answers := Session.run { backend := backend } steps }

def ofRecording (shader : ShaderTable) (steps : List SurfaceStep) :
    Transcript RecordedCall :=
  let backend : RecordingBackend := { shader := shader }
  { answers := Session.run { backend := backend } steps }

def ofLoading (loading : Loading) (steps : List TableStep) : Transcript NativeCall :=
  { lookups := loading.lookups
    logs := loading.logs
    answers := Session.run { backend := HandleBackend.single loading.table } steps }

end Transcript

end ShaderUniforms
