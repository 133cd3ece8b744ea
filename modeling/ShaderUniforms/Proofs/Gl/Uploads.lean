import ShaderUniforms.Native.Method
import ShaderUniforms.Proofs.Gl.OptionalFunctions
import ShaderUniforms.Proofs.Native.Delivery

/-!
# Uploads on a context

What becomes of a value that is uploaded on a context.  Where nothing is
missing, one call sends it.  In general an upload ends in one of four ways, and
which one it is can be told in advance from the location, the symbol for the value's
shape and numbers, the symbols that the driver exports and the settings.
-/

namespace ShaderUniforms

namespace Context

variable {driver : Driver} {settings : Settings}

theorem upload_create_of_offers {v : UniformValue}
    (hoffers : settings.Offers driver.exposes v.type.function) (l : UniformLocation) :
    Surface.upload (create driver settings) l v =
      .call (v.toUpload.toCall (driver.countRule v.type.function) l) := by
  have hfunction := v.function_toUpload
  rw [<- hfunction] at hoffers
  rw [<- hfunction]
  exact uniform_create_of_offers hoffers l

theorem upload_create_of_skipped {v : UniformValue}
    (hextended : v.type.function ∈ UniformFunction.extended)
    (hoffers : ¬ settings.Offers driver.exposes v.type.function) (l : UniformLocation) :
    Surface.upload (create driver settings) l v =
      .log (.uploadSkipped v.type.function) := by
  rw [<- v.function_toUpload] at hextended hoffers ⊢
  exact uniform_create_of_skipped hextended hoffers l

theorem upload_create_of_aborted {v : UniformValue}
    (hcore : v.type.function ∉ UniformFunction.extended)
    (hoffers : ¬ settings.Offers driver.exposes v.type.function) (l : UniformLocation) :
    Surface.upload (create driver settings) l v =
      .fail (.aborted (.notLoaded (.uniform v.type.function))) := by
  rw [<- v.function_toUpload] at hcore hoffers ⊢
  exact uniform_create_of_aborted hcore hoffers l

/-!
## Nothing is missing
-/

/--
Every value goes out in exactly one call, which sends it to the location that
was given, and from which a variable of the value's type gets the value back.
-/
theorem upload_delivers {driver : Driver} (hdriver : driver.Complete)
    (l : UniformLocation) (v : UniformValue) :
    exists call : NativeCall,
      Surface.upload (create driver { loadExtended := true }) l v = .call call ∧
        UniformFunction.ofSymbol? call.symbol = some v.type.function ∧
        call.Sends l v ∧
        call.readAs? v.type = some (l, v) := by
  have hsends := v.sends_toCall (driver.countRule_exact v.type.function) l
  exists v.toUpload.toCall (driver.countRule v.type.function) l
  constructor
  · exact upload_create_of_offers (Settings.offers_of_complete hdriver v.type.function) l
  constructor
  · rw [hsends.symbol_eq]
    exact UniformFunction.ofSymbol?_symbol v.type.function
  · exact ⟨hsends, hsends.readAs?_eq⟩

/-- A matrix of two columns and three rows, all different, with a NaN among them. -/
def unevenDoubles : UniformValue :=
  .matrix .double .two .three
    (.ofColumns #v[#v[⟨1⟩, ⟨2⟩, .quietNaN], #v[⟨4⟩, ⟨5⟩, ⟨6⟩]])

theorem upload_delivers_unevenDoubles :
    (Driver.ofTables [] []).Complete ∧
      exists call : NativeCall,
        Surface.upload (create (Driver.ofTables [] []) { loadExtended := true }) ⟨-7⟩
            unevenDoubles = .call call ∧
          UniformFunction.ofSymbol? call.symbol = some (.matrix .double .two .three) ∧
          call.Sends ⟨-7⟩ unevenDoubles ∧
          call.readAs? (.matrix .double .two .three) = some (⟨-7⟩, unevenDoubles) := by
  have hdriver := Driver.ofTables_complete []
  exact ⟨hdriver, upload_delivers hdriver ⟨-7⟩ unevenDoubles⟩

end Context

/-!
## The endings of an upload
-/

/-- The ways in which setting a uniform can end. -/
inductive UploadEnding where
  | unlocated
  | delivered
  | skipped
  | aborted
  deriving DecidableEq

namespace UploadEnding

/-- What is seen of an upload through the function of the symbol that ends in the given way. -/
def Describes (symbol : String) (o : Outcome NativeCall Unit) : UploadEnding -> Prop
  | unlocated =>
      o.result = .ok () ∧ o.calls = [] ∧
        exists event, o.logs = [event] ∧ event.level = .debug
  | delivered =>
      o.result = .ok () ∧ (exists call, o.calls = [call] ∧ call.symbol = symbol) ∧
        o.logs = []
  | skipped =>
      o.result = .ok () ∧ o.calls = [] ∧
        exists event, o.logs = [event] ∧ event.level = .error ∧
          event.text = symbol ++
            " is not available in the current GL context, uniform upload skipped"
  | aborted =>
      (exists fault : Fault, o.result = .error (.aborted fault) ∧
        fault.message = "called " ++ symbol ++ " but it was not loaded.") ∧
        o.calls = [] ∧ o.logs = []

/-- The ending to expect where the location is not looked at. -/
def ofUpload (exposes : String -> Bool) (settings : Settings) (symbol : String) :
    UploadEnding :=
  if settings.OffersSymbol exposes symbol then delivered
  else if symbol ∈ UniformFunction.optionalSymbols then skipped
  else aborted

/-- The ending to expect where a missing location comes before everything else. -/
def ofSetUniform (exposes : String -> Bool) (settings : Settings) (l : UniformLocation)
    (symbol : String) : UploadEnding :=
  if l = .notFound then unlocated else ofUpload exposes settings symbol

/-!
The number of calls and the levels of the log tell the endings apart, so an
outcome has at most one of them.
-/

def mark : UploadEnding -> Nat × List LogLevel
  | unlocated => (0, [.debug])
  | delivered => (1, [])
  | skipped => (0, [.error])
  | aborted => (0, [])

theorem mark_injective {a b : UploadEnding} (h : a.mark = b.mark) : a = b := by
  revert h
  cases a <;> cases b <;> decide

theorem mark_eq_of_describes {symbol : String} {o : Outcome NativeCall Unit}
    {ending : UploadEnding} (h : ending.Describes symbol o) :
    (o.calls.length, o.logs.map LogEvent.level) = ending.mark := by
  cases ending with
  | unlocated =>
      rcases h with ⟨_, hcalls, event, hlogs, hlevel⟩
      rw [hcalls, hlogs, List.map_singleton, hlevel]
      rfl
  | delivered =>
      rcases h with ⟨_, ⟨call, hcalls, _⟩, hlogs⟩
      rw [hcalls, hlogs]
      rfl
  | skipped =>
      rcases h with ⟨_, hcalls, event, hlogs, hlevel, _⟩
      rw [hcalls, hlogs, List.map_singleton, hlevel]
      rfl
  | aborted =>
      rcases h with ⟨_, hcalls, hlogs⟩
      rw [hcalls, hlogs]
      rfl

theorem describes_iff_eq {symbol : String} {o : Outcome NativeCall Unit}
    {ending : UploadEnding} (h : ending.Describes symbol o) (other : UploadEnding) :
    other.Describes symbol o <-> other = ending := by
  constructor
  · intro hother
    apply mark_injective
    rw [<- mark_eq_of_describes hother, <- mark_eq_of_describes h]
  · intro hother
    rw [hother]
    exact h

section Endings

variable (driver : Driver) (settings : Settings) (l : UniformLocation) (v : UniformValue)

theorem describes_upload :
    (ofUpload driver.exposes settings v.type.function.symbol).Describes v.type.function.symbol
      (Surface.upload (Context.create driver settings) l v) := by
  unfold ofUpload
  simp only [Settings.offersSymbol_iff, UniformFunction.symbol_mem_optionalSymbols_iff]
  by_cases hoffers : settings.Offers driver.exposes v.type.function
  · rw [if_pos hoffers, Context.upload_create_of_offers hoffers]
    have hsends := v.sends_toCall (driver.countRule_exact v.type.function) l
    exact ⟨rfl, ⟨_, rfl, hsends.symbol_eq⟩, rfl⟩
  · rw [if_neg hoffers]
    by_cases hextended : v.type.function ∈ UniformFunction.extended
    · rw [if_pos hextended, Context.upload_create_of_skipped hextended hoffers]
      exact ⟨rfl, rfl, _, rfl, rfl, rfl⟩
    · rw [if_neg hextended, Context.upload_create_of_aborted hextended hoffers]
      exact ⟨⟨_, rfl, rfl⟩, rfl, rfl⟩

theorem describes_setUniform :
    (ofSetUniform driver.exposes settings l v.type.function.symbol).Describes
      v.type.function.symbol (Surface.setUniform (Context.create driver settings) l v) := by
  unfold ofSetUniform
  by_cases hl : l = .notFound
  · rw [if_pos hl, hl, Surface.setUniform_notFound]
    exact ⟨rfl, rfl, _, rfl, rfl⟩
  · rw [if_neg hl, Surface.setUniform_of_isFound _ (Location.isFound_eq_true_iff.mpr hl)]
    exact describes_upload driver settings l v

end Endings

/--
For the shape and the numbers of a value there is one symbol, by the list of methods
and by the rules for symbols.  Setting a uniform to the value and uploading it end in
exactly one way, which depends on nothing but the location, this symbol, what the
driver exports and the settings.
-/
theorem setUniform_and_upload_ending (driver : Driver) (settings : Settings)
    (l : UniformLocation) (v : UniformValue) :
    exists symbol : String,
      UniformFunction.ofSymbol? symbol = some v.type.function ∧
      (exists m : Method, m ∈ Method.all ∧ m.function = v.type.function ∧ m.symbol = symbol) ∧
      forall ending : UploadEnding,
        (ending.Describes symbol (Surface.setUniform (Context.create driver settings) l v) <->
          ending = ofSetUniform driver.exposes settings l symbol) ∧
        (ending.Describes symbol (Surface.upload (Context.create driver settings) l v) <->
          ending = ofUpload driver.exposes settings symbol) := by
  refine ⟨v.type.function.symbol, v.type.function.ofSymbol?_symbol,
    ⟨v.type.function.method, Method.method_mem_all _, rfl, rfl⟩, ?_⟩
  intro ending
  constructor
  · exact describes_iff_eq (describes_setUniform driver settings l v) ending
  · exact describes_iff_eq (describes_upload driver settings l v) ending

end UploadEnding

end ShaderUniforms
