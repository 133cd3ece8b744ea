import Mathlib.Data.List.Nodup
import ShaderUniforms.Gl.Context

/-!
# Raw texture targets

A texture target may come as a number from elsewhere.  The number is looked for
among those of all targets, and since no two targets share one, whatever the numbers
are, it is found as the one target that has it, or not at all.  A texture whose target is found is bound
under the very numbers that came in, as it would be if its target had been known
from the start.  Any other is refused before anything is logged or called.
-/

namespace ShaderUniforms

/-!
## Finding a target
-/

namespace TextureTarget

section Constants

variable {constants : TextureConstants} {raw : UInt32} {t : TextureTarget}

theorem constIn_injective {u : TextureTarget} (h : t.constIn constants = u.constIn constants) :
    t = u := by
  have hnodup : (all.map (constIn constants)).Nodup := constants.nodup
  exact List.inj_on_of_nodup_map hnodup t.mem_all u.mem_all h

/-- The search ends at a target that has the number, or it has passed by all targets. -/
theorem ofConstIn_cases (constants : TextureConstants) (raw : UInt32) :
    (exists t : TextureTarget, t.constIn constants = raw ∧ ofConstIn constants raw = .ok t) ∨
      ((forall t : TextureTarget, t.constIn constants ≠ raw) ∧
        ofConstIn constants raw = .error (.unknownTextureTarget raw)) := by
  unfold ofConstIn
  cases hfind : all.find? fun t => t.constIn constants == raw with
  | some t =>
      have hmatch := List.find?_some hfind
      exact Or.inl ⟨t, beq_iff_eq.mp hmatch, rfl⟩
  | none =>
      apply Or.inr
      constructor
      · intro t hconst
        exact List.find?_eq_none.mp hfind t t.mem_all (beq_iff_eq.mpr hconst)
      · rfl

theorem ofConstIn_eq_ok_iff : ofConstIn constants raw = .ok t <-> t.constIn constants = raw := by
  rcases ofConstIn_cases constants raw with ⟨u, hconst, hfound⟩ | ⟨hnone, hrefused⟩
  · rw [hfound]
    constructor
    · intro h
      cases h
      exact hconst
    · intro h
      rw [constIn_injective (hconst.trans h.symm)]
  · rw [hrefused]
    constructor
    · intro h
      cases h
    · intro h
      exact absurd h (hnone t)

theorem ofConstIn_eq_error_iff :
    ofConstIn constants raw = .error (.unknownTextureTarget raw) <->
      ¬ exists t : TextureTarget, t.constIn constants = raw := by
  rcases ofConstIn_cases constants raw with ⟨u, hconst, hfound⟩ | ⟨hnone, hrefused⟩
  · rw [hfound]
    constructor
    · intro h
      cases h
    · intro h
      exact absurd ⟨u, hconst⟩ h
  · constructor
    · intro _ h
      rcases h with ⟨t, hconst⟩
      exact hnone t hconst
    · intro _
      exact hrefused

end Constants

/-!
### The published numbers
-/

variable {raw : UInt32} {t : TextureTarget}

theorem glConst_injective {u : TextureTarget} (h : t.glConst = u.glConst) : t = u :=
  constIn_injective h

theorem ofConst_cases (raw : UInt32) :
    (exists t : TextureTarget, t.glConst = raw ∧ ofConst raw = .ok t) ∨
      ((forall t : TextureTarget, t.glConst ≠ raw) ∧
        ofConst raw = .error (.unknownTextureTarget raw)) :=
  ofConstIn_cases .published raw

theorem ofConst_eq_ok_iff : ofConst raw = .ok t <-> t.glConst = raw :=
  ofConstIn_eq_ok_iff

theorem ofConst_eq_error_iff :
    ofConst raw = .error (.unknownTextureTarget raw) <->
      ¬ exists t : TextureTarget, t.glConst = raw :=
  ofConstIn_eq_error_iff

end TextureTarget

/-!
## Texture numbers

The number zero names no texture.  It is passed on as the absence of one, and
reaches the driver as zero again.
-/

/-- A texture of the graphics library. Number zero is kept for the absence of one. -/
structure NativeTexture where
  id : UInt32
  id_ne_zero : id ≠ 0

def NativeTexture.ofId? (id : UInt32) : Option NativeTexture :=
  if h : id = 0 then none else some ⟨id, h⟩

theorem NativeTexture.elim_ofId? (id : UInt32) :
    (ofId? id).elim 0 NativeTexture.id = id := by
  by_cases hid : id = 0
  · rw [ofId?, dif_pos hid, hid]
    rfl
  · rw [ofId?, dif_neg hid]
    rfl

namespace Context

/-- Binds a texture, or none, in place of the one that is bound. -/
def bindNative (context : Context) (target : TextureTarget) (texture : Option NativeTexture) :
    Outcome NativeCall Unit :=
  context.issue (.bindTexture target.glConst (texture.elim 0 NativeTexture.id))

theorem bindNative_ofId? (context : Context) (target : TextureTarget) (id : UInt32) :
    context.bindNative target (NativeTexture.ofId? id) = Surface.bindTexture context target id := by
  unfold bindNative
  rw [NativeTexture.elim_ofId?]
  rfl

end Context

/-!
## Binding by a raw target
-/

namespace Surface

variable {gamma kappa : Type} [Surface gamma kappa]

theorem bindRaw_of_found (surface : gamma) {raw : UInt32} {t : TextureTarget}
    (hfound : TextureTarget.ofConst raw = .ok t) (id : UInt32) :
    bindRaw surface raw id = bind surface ⟨t, id⟩ := by
  unfold bindRaw Texture.ofConst
  rw [hfound]
  rfl

theorem bindRaw_of_refused (surface : gamma) {raw : UInt32} {error : Error}
    (hrefused : TextureTarget.ofConst raw = .error error) (id : UInt32) :
    bindRaw surface raw id = .fail (.rejected error) := by
  unfold bindRaw Texture.ofConst
  rw [hrefused]
  rfl

end Surface

namespace Context

variable {context : Context} {raw id : UInt32}

/--
The texture is bound as one of the only target with this number would be: it is
announced in the log, and one call passes on both numbers as they came in.
-/
def BindsAsGiven (context : Context) (raw id : UInt32) : Prop :=
  exists t : TextureTarget, (forall u : TextureTarget, u.glConst = raw <-> u = t) ∧
    Surface.bindRaw context raw id = Surface.bind context ⟨t, id⟩ ∧
    Surface.bindRaw context raw id =
      { result := .ok (), calls := [.bindTexture raw id], logs := [.bindingTexture ⟨t, id⟩] } ∧
    (LogEvent.bindingTexture ⟨t, id⟩).level = .trace

/-- The number is refused, with no call and nothing logged. -/
def RefusesTarget (context : Context) (raw id : UInt32) : Prop :=
  Surface.bindRaw context raw id = .fail (.rejected (.unknownTextureTarget raw))

theorem bindsAsGiven_of_found
    (hexposes : context.driver.exposes NativeFunction.bindTexture.symbol = true)
    {t : TextureTarget} (hconst : t.glConst = raw) : context.BindsAsGiven raw id := by
  have hbind : Surface.bindRaw context raw id = Surface.bind context ⟨t, id⟩ :=
    Surface.bindRaw_of_found context (TextureTarget.ofConst_eq_ok_iff.mpr hconst) id
  have hcall : context.issue (.bindTexture t.glConst id) = .call (.bindTexture t.glConst id) :=
    issue_of_exposes hexposes
  refine ⟨t, ?_, hbind, ?_, rfl⟩
  · intro u
    constructor
    · intro h
      exact TextureTarget.glConst_injective (h.trans hconst.symm)
    · intro h
      rw [h]
      exact hconst
  · rw [hbind, <- hconst]
    show (.log (.bindingTexture ⟨t, id⟩) >>= fun _ =>
      context.issue (.bindTexture t.glConst id)) = _
    rw [hcall]
    rfl

theorem logs_issue (context : Context) (c : NativeCall) : (context.issue c).logs = [] := by
  cases hexposes : context.driver.exposes c.symbol with
  | true =>
      rw [issue_of_exposes hexposes]
      rfl
  | false =>
      rw [issue_of_not_exposes hexposes]
      rfl

theorem logs_bind (context : Context) (t : Texture) :
    (Surface.bind context t).logs = [.bindingTexture t] := by
  show LogEvent.bindingTexture t ::
    (context.issue (.bindTexture t.target.glConst t.id)).logs = _
  rw [logs_issue]

/-- What is logged does not depend on whether the texture can be bound after it. -/
theorem logs_bindRaw_eq (context other : Context) (raw id : UInt32) :
    (Surface.bindRaw other raw id).logs = (Surface.bindRaw context raw id).logs := by
  rcases TextureTarget.ofConst_cases raw with ⟨t, _, hfound⟩ | ⟨_, hrefused⟩
  · rw [Surface.bindRaw_of_found other hfound, Surface.bindRaw_of_found context hfound,
      logs_bind, logs_bind]
  · rw [Surface.bindRaw_of_refused other hrefused, Surface.bindRaw_of_refused context hrefused]

/--
A raw target is accepted just when it names a target, and then the texture is
bound as given, whether or not its number is zero; otherwise it is refused.  The
log is written before the call, for it is the same where the call cannot be made.
-/
theorem bindRaw_accepts_iff
    (hexposes : context.driver.exposes NativeFunction.bindTexture.symbol = true)
    (raw id : UInt32) :
    (forall t : TextureTarget, TextureTarget.ofConst raw = .ok t <-> t.glConst = raw) ∧
      (context.BindsAsGiven raw id <-> exists t : TextureTarget, t.glConst = raw) ∧
      (context.RefusesTarget raw id <-> ¬ exists t : TextureTarget, t.glConst = raw) ∧
      (forall t : TextureTarget,
        context.bindNative t (NativeTexture.ofId? id) = Surface.bindTexture context t id) ∧
      forall other : Context,
        (Surface.bindRaw other raw id).logs = (Surface.bindRaw context raw id).logs := by
  constructor
  · intro t
    exact TextureTarget.ofConst_eq_ok_iff
  constructor
  · constructor
    · intro h
      rcases h with ⟨t, hunique, _⟩
      exact ⟨t, (hunique t).mpr rfl⟩
    · intro h
      rcases h with ⟨t, hconst⟩
      exact bindsAsGiven_of_found hexposes hconst
  constructor
  · constructor
    · intro hrefuses h
      rcases h with ⟨t, hconst⟩
      have hbinds : context.BindsAsGiven raw id := bindsAsGiven_of_found hexposes hconst
      rcases hbinds with ⟨_, _, _, hbound, _⟩
      rw [RefusesTarget, hbound] at hrefuses
      cases hrefuses
    · intro h
      exact Surface.bindRaw_of_refused context (TextureTarget.ofConst_eq_error_iff.mpr h) id
  constructor
  · intro t
    exact context.bindNative_ofId? t id
  · intro other
    exact context.logs_bindRaw_eq other raw id

theorem bindRaw_accepts_iff_zero :
    (create (Driver.ofTables ["glUniform1f"] []) {}).driver.exposes
        NativeFunction.bindTexture.symbol = true ∧
      BindsAsGiven (create (Driver.ofTables ["glUniform1f"] []) {}) 0x9102 0 ∧
      RefusesTarget (create (Driver.ofTables ["glUniform1f"] []) {}) 0x8D40 0 := by
  have hexposes : (create (Driver.ofTables ["glUniform1f"] []) {}).driver.exposes
      NativeFunction.bindTexture.symbol = true := by
    decide
  have hnone : ¬ exists t : TextureTarget, t.glConst = 0x8D40 := by
    intro h
    rcases h with ⟨t, hconst⟩
    revert hconst
    cases t <;> decide
  refine ⟨hexposes, ?_, ?_⟩
  · exact (bindRaw_accepts_iff hexposes 0x9102 0).right.left.mpr ⟨.d2MultisampleArray, rfl⟩
  · exact (bindRaw_accepts_iff hexposes 0x8D40 0).right.right.left.mpr hnone

end Context

end ShaderUniforms
