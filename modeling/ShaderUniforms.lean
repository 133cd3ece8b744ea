import ShaderUniforms.Gl.Replay
import ShaderUniforms.Native.Reading
import ShaderUniforms.Session.Transcript
import ShaderUniforms.Native.Method
import ShaderUniforms.Proofs.Outcome
import ShaderUniforms.Proofs.Glsl.Layout
import ShaderUniforms.Proofs.Native.Counts
import ShaderUniforms.Proofs.Native.Delivery
import ShaderUniforms.Proofs.Gl.Availability
import ShaderUniforms.Proofs.Gl.Uploads
import ShaderUniforms.Proofs.Gl.OptionalFunctions
import ShaderUniforms.Proofs.Session.Replay
import ShaderUniforms.Proofs.Session.Locations
import ShaderUniforms.Proofs.Program.NamedUniforms
import ShaderUniforms.Proofs.Gl.Hiding
import ShaderUniforms.Proofs.Session.Losses
import ShaderUniforms.Proofs.Glsl.Equality
import ShaderUniforms.Proofs.Surface.RecordedUploads
import ShaderUniforms.Proofs.Session.Histories
import ShaderUniforms.Proofs.Session.Tables
import ShaderUniforms.Proofs.Session.Booleans
import ShaderUniforms.Proofs.Session.Failures
import ShaderUniforms.Proofs.Gl.Slices
import ShaderUniforms.Proofs.Glsl.FlatLists
import ShaderUniforms.Proofs.Glsl.Slices
import ShaderUniforms.Proofs.Glsl.Entries
import ShaderUniforms.Proofs.Gl.RawTargets
import ShaderUniforms.Proofs.Gl.Lookups
import ShaderUniforms.Proofs.Surface.TakenRecords
import ShaderUniforms.Proofs.Binary
import ShaderUniforms.Proofs.Glsl.Components
import ShaderUniforms.Proofs.Glsl.Elements
import ShaderUniforms.Proofs.Glsl.Identity
