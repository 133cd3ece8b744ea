import Mathlib.Data.List.Forall2
import ShaderUniforms.Proofs.Binary
import ShaderUniforms.Proofs.Glsl.Equality

/-!
# Components of uniform values

A uniform value is its type and a list of components, and values are equal just
when the types are the same and the components are equal as numbers, one by one.
On components, equality is not far from being the same: it separates nothing but
NaNs from themselves, and joins nothing but the two zeros.  What holds of
components then holds of whole values.
-/

namespace ShaderUniforms

/-!
## Components of one kind

Only floating point numbers can be NaNs and have two zeros.
-/

namespace Scalar

def IsNaN : (s : Scalar) -> s.Val -> Prop
  | num .float, x => Binary.HasNaNFields (x : Binary32)
  | num .double, x => Binary.HasNaNFields (x : Binary64)
  | num .uint, _ => False
  | num .int, _ => False
  | bool, _ => False

def OppositeZeros : (s : Scalar) -> s.Val -> s.Val -> Prop
  | num .float, x, y => Binary.OppositeZeros (x : Binary32) y
  | num .double, x, y => Binary.OppositeZeros (x : Binary64) y
  | num .uint, _, _ => False
  | num .int, _, _ => False
  | bool, _, _ => False

variable {s : Scalar} {x y z : s.Val}

theorem OppositeZeros.symm (h : s.OppositeZeros x y) : s.OppositeZeros y x := by
  cases s with
  | num e =>
      cases e with
      | float => exact Binary.OppositeZeros.symm h
      | double => exact Binary.OppositeZeros.symm h
      | uint => exact h
      | int => exact h
  | bool => exact h

theorem OppositeZeros.eq_of_opposite (hxy : s.OppositeZeros x y) (hyz : s.OppositeZeros y z) :
    x = z := by
  cases s with
  | num e =>
      cases e with
      | float => exact Binary.OppositeZeros.eq_of_opposite hxy hyz
      | double => exact Binary.OppositeZeros.eq_of_opposite hxy hyz
      | uint => exact False.elim hxy
      | int => exact False.elim hxy
  | bool => exact False.elim hxy

private theorem exact_beq_iff {alpha : Type} [BEq alpha] [LawfulBEq alpha] {x y : alpha} :
    (x == y) = true <-> ¬ False ∧ ¬ False ∧ (x = y ∨ False) := by
  simp

theorem beq_iff :
    (x == y) = true <-> ¬ s.IsNaN x ∧ ¬ s.IsNaN y ∧ (x = y ∨ s.OppositeZeros x y) := by
  cases s with
  | num e =>
      cases e with
      | float => exact Binary.beq_iff
      | double => exact Binary.beq_iff
      | uint => exact @exact_beq_iff UInt32 _ _ x y
      | int => exact @exact_beq_iff Int32 _ _ x y
  | bool => exact @exact_beq_iff Bool _ _ x y

end Scalar

/-!
## Single components
-/

/-- A component of some kind. A floating point number is its bit pattern. -/
structure Component where
  kind : Scalar
  value : kind.Val

namespace Component

def IsNaN (c : Component) : Prop :=
  c.kind.IsNaN c.value

/-- The components are the two zeros of one floating point format. -/
inductive OppositeZeros : Component -> Component -> Prop where
  | ofValues {s : Scalar} {x y : s.Val} (h : s.OppositeZeros x y) : OppositeZeros ⟨s, x⟩ ⟨s, y⟩

theorem OppositeZeros.symm {c d : Component} (h : c.OppositeZeros d) : d.OppositeZeros c := by
  cases h with
  | ofValues h => exact .ofValues h.symm

theorem OppositeZeros.eq_of_opposite {b c d : Component} (hbc : b.OppositeZeros c)
    (hcd : c.OppositeZeros d) : b = d := by
  cases hbc with
  | ofValues hxy =>
      cases hcd with
      | ofValues hyz => rw [hxy.eq_of_opposite hyz]

/-- The components are the same up to the sign of a zero. -/
def SameUpToZeros (c d : Component) : Prop :=
  c = d ∨ c.OppositeZeros d

/-- The components are equal as numbers. -/
def SameNumber (c d : Component) : Prop :=
  ¬ c.IsNaN ∧ ¬ d.IsNaN ∧ c.SameUpToZeros d

theorem SameUpToZeros.symm {c d : Component} (h : c.SameUpToZeros d) : d.SameUpToZeros c := by
  rcases h with h | h
  · exact Or.inl h.symm
  · exact Or.inr h.symm

theorem SameUpToZeros.trans {b c d : Component} (hbc : b.SameUpToZeros c)
    (hcd : c.SameUpToZeros d) : b.SameUpToZeros d := by
  rcases hbc with hbc | hbc
  · rw [hbc]
    exact hcd
  · rcases hcd with hcd | hcd
    · rw [<- hcd]
      exact Or.inr hbc
    · exact Or.inl (hbc.eq_of_opposite hcd)

theorem SameNumber.symm {c d : Component} (h : c.SameNumber d) : d.SameNumber c :=
  ⟨h.right.left, h.left, h.right.right.symm⟩

theorem SameNumber.trans {b c d : Component} (hbc : b.SameNumber c) (hcd : c.SameNumber d) :
    b.SameNumber d :=
  ⟨hbc.left, hcd.right.left, hbc.right.right.trans hcd.right.right⟩

theorem sameNumber_self_iff {c : Component} : c.SameNumber c <-> ¬ c.IsNaN := by
  constructor
  · intro h
    exact h.left
  · intro h
    exact ⟨h, h, Or.inl rfl⟩

/-!
### Lists of components
-/

theorem forall₂_sameNumber_trans {bs cs ds : List Component}
    (hbc : List.Forall₂ SameNumber bs cs) (hcd : List.Forall₂ SameNumber cs ds) :
    List.Forall₂ SameNumber bs ds := by
  induction hbc generalizing ds with
  | nil => exact hcd
  | cons hhead _ ih =>
      cases hcd with
      | cons hhead' htail => exact .cons (hhead.trans hhead') (ih htail)

theorem forall₂_sameNumber_iff {cs ds : List Component} :
    List.Forall₂ SameNumber cs ds <->
      (forall c, c ∈ cs -> ¬ c.IsNaN) ∧ (forall d, d ∈ ds -> ¬ d.IsNaN) ∧
        List.Forall₂ SameUpToZeros cs ds := by
  induction cs generalizing ds with
  | nil =>
      rw [List.forall₂_nil_left_iff, List.forall₂_nil_left_iff]
      constructor
      · intro h
        rw [h]
        simp
      · intro h
        exact h.right.right
  | cons c cs ih =>
      cases ds with
      | nil => simp
      | cons d ds =>
          rw [List.forall₂_cons, List.forall₂_cons, ih, List.forall_mem_cons,
            List.forall_mem_cons]
          unfold SameNumber
          constructor
          · intro h
            rcases h with ⟨⟨hc, hd, hhead⟩, hcs, hds, htail⟩
            exact ⟨⟨hc, hcs⟩, ⟨hd, hds⟩, hhead, htail⟩
          · intro h
            rcases h with ⟨⟨hc, hcs⟩, ⟨hd, hds⟩, hhead, htail⟩
            exact ⟨⟨hc, hd, hhead⟩, hcs, hds, htail⟩

/-- Lists of one length that do not agree differ at some position. -/
theorem not_forall₂_iff {relates : Component -> Component -> Prop} {cs ds : List Component}
    (hlength : cs.length = ds.length) :
    ¬ List.Forall₂ relates cs ds <->
      exists (i : Nat) (c d : Component),
        cs[i]? = some c ∧ ds[i]? = some d ∧ ¬ relates c d := by
  constructor
  · intro h
    apply Classical.byContradiction
    intro hnone
    apply h
    rw [List.forall₂_iff_get]
    constructor
    · exact hlength
    · intro i hc hd
      apply Classical.byContradiction
      intro hrelates
      exact hnone ⟨i, _, _, List.getElem?_eq_getElem hc, List.getElem?_eq_getElem hd, hrelates⟩
  · intro h hall
    rcases h with ⟨i, c, d, hc, hd, hrelates⟩
    rcases List.getElem?_eq_some_iff.mp hc with ⟨hic, rfl⟩
    rcases List.getElem?_eq_some_iff.mp hd with ⟨hid, rfl⟩
    exact hrelates (hall.get hic hid)

end Component

/-!
## Equality of components
-/

namespace Scalar

open Component

theorem oppositeZeros_mk_iff {s : Scalar} {x y : s.Val} :
    Component.OppositeZeros ⟨s, x⟩ ⟨s, y⟩ <-> s.OppositeZeros x y := by
  constructor
  · intro h
    cases h with
    | ofValues h => exact h
  · exact .ofValues

theorem beq_iff_sameNumber (s : Scalar) (x y : s.Val) :
    (x == y) = true <-> SameNumber ⟨s, x⟩ ⟨s, y⟩ := by
  have hsame : (⟨s, x⟩ : Component) = ⟨s, y⟩ <-> x = y := by simp
  unfold SameNumber SameUpToZeros
  rw [hsame, oppositeZeros_mk_iff]
  exact beq_iff

theorem list_beq_iff_sameNumber (s : Scalar) {xs ys : List s.Val} :
    (xs == ys) = true <->
      List.Forall₂ SameNumber (xs.map (Component.mk s)) (ys.map (Component.mk s)) := by
  induction xs generalizing ys with
  | nil =>
      cases ys with
      | nil => simp
      | cons y ys => simp
  | cons x xs ih =>
      cases ys with
      | nil => simp
      | cons y ys =>
          rw [List.map_cons, List.map_cons, List.forall₂_cons, <- ih, <- beq_iff_sameNumber]
          exact Bool.and_eq_true_iff

end Scalar

/-!
## Components of a value
-/

namespace UniformValue

def kind : UniformValue -> Scalar
  | scalar s _ => s
  | vector s _ _ => s
  | matrix p _ _ _ => .num p.element

/-- The components in a list, those of a matrix column after column. -/
def values : (a : UniformValue) -> List a.kind.Val
  | scalar _ x => [x]
  | vector _ _ v => v.toList
  | matrix _ _ _ m => m.toList

def parts (a : UniformValue) : List Component :=
  a.values.map (Component.mk a.kind)

def IsNaNFree (a : UniformValue) : Prop :=
  forall c, c ∈ a.parts -> ¬ c.IsNaN

theorem beq_iff_of_sameType {a b : UniformValue} (h : SameType a b) :
    (a == b) = true <-> List.Forall₂ Component.SameNumber a.parts b.parts := by
  cases h with
  | scalar s x y =>
      rw [scalar_beq_scalar, s.beq_iff_sameNumber]
      show _ <-> List.Forall₂ _ [Component.mk s x] [Component.mk s y]
      rw [List.forall₂_cons]
      simp
  | vector s n v w =>
      rw [vector_beq_vector, <- Vector.toList_beq_toList]
      exact s.list_beq_iff_sameNumber
  | matrix p c r m k =>
      rw [matrix_beq_matrix, <- Matrix.toList_beq_toList]
      exact (Scalar.num p.element).list_beq_iff_sameNumber

/-- Values are equal if they have one type and equal components, one by one. -/
theorem beq_iff_parts {a b : UniformValue} :
    (a == b) = true <->
      a.type = b.type ∧ List.Forall₂ Component.SameNumber a.parts b.parts := by
  constructor
  · intro h
    have htype := type_eq_of_beq h
    exact ⟨htype, (beq_iff_of_sameType (sameType_of_type_eq htype)).mp h⟩
  · intro h
    rcases h with ⟨htype, hparts⟩
    exact (beq_iff_of_sameType (sameType_of_type_eq htype)).mpr hparts

theorem length_parts (a : UniformValue) : a.parts.length = a.type.function.stride := by
  unfold parts
  rw [List.length_map]
  cases a with
  | scalar s x => rfl
  | vector s n v => exact v.length_toList
  | matrix p c r m => exact m.length_toList

/-!
## Equality of values
-/

theorem beq_symm {a b : UniformValue} (h : (a == b) = true) : (b == a) = true := by
  rcases beq_iff_parts.mp h with ⟨htype, hparts⟩
  apply beq_iff_parts.mpr
  constructor
  · exact htype.symm
  · apply List.Forall₂.flip
    exact hparts.imp fun _ _ hnumber => hnumber.symm

theorem beq_trans {a b c : UniformValue} (hab : (a == b) = true) (hbc : (b == c) = true) :
    (a == c) = true := by
  rcases beq_iff_parts.mp hab with ⟨habType, habParts⟩
  rcases beq_iff_parts.mp hbc with ⟨hbcType, hbcParts⟩
  apply beq_iff_parts.mpr
  constructor
  · exact habType.trans hbcType
  · exact Component.forall₂_sameNumber_trans habParts hbcParts

theorem beq_self_iff {a : UniformValue} : (a == a) = true <-> a.IsNaNFree := by
  rw [beq_iff_parts, List.forall₂_same]
  simp only [Component.sameNumber_self_iff, true_and]
  rfl

theorem sameUpToZeros_of_beq {a b : UniformValue} (h : (a == b) = true) :
    List.Forall₂ Component.SameUpToZeros a.parts b.parts :=
  (Component.forall₂_sameNumber_iff.mp (beq_iff_parts.mp h).right).right.right

theorem beq_iff_sameUpToZeros {a b : UniformValue} (ha : a.IsNaNFree) (hb : b.IsNaNFree)
    (htype : a.type = b.type) :
    (a == b) = true <-> List.Forall₂ Component.SameUpToZeros a.parts b.parts := by
  rw [beq_iff_parts, Component.forall₂_sameNumber_iff]
  constructor
  · intro h
    exact h.right.right.right
  · intro h
    exact ⟨htype, ha, hb, h⟩

end UniformValue

/-!
### Names of types
-/

namespace GlslType

theorem ofName?_name (t : GlslType) : ofName? t.name = some t := by
  cases t with
  | scalar s =>
      cases s with
      | num e => cases e <;> rfl
      | bool => rfl
  | vector s n =>
      cases s with
      | num e => cases e <;> cases n <;> rfl
      | bool => cases n <;> rfl
  | matrix p c r => cases p <;> cases c <;> cases r <;> rfl

theorem name_injective {s t : GlslType} (h : s.name = t.name) : s = t := by
  have hsome : some s = some t := by
    rw [<- ofName?_name s, <- ofName?_name t, h]
  injection hsome

end GlslType

namespace UniformValue

/--
Equality of values goes both ways and can be chained, and it needs values of one
type.  A value is equal to itself unless it has a NaN among its components.  Equal
values have the same components, except that a zero may have another sign.  Where
there is no NaN, nothing else makes a difference.
-/
theorem beq_partialEquivalence :
    (forall a b : UniformValue, (a == b) = true -> (b == a) = true) ∧
      (forall a b c : UniformValue, (a == b) = true -> (b == c) = true -> (a == c) = true) ∧
      (forall a b : UniformValue, (a == b) = true -> a.type.name = b.type.name) ∧
      (forall a : UniformValue, (a == a) = true <-> a.IsNaNFree) ∧
      (forall a b : UniformValue, (a == b) = true ->
        List.Forall₂ Component.SameUpToZeros a.parts b.parts) ∧
      forall a b : UniformValue, a.IsNaNFree -> b.IsNaNFree -> a.type.name = b.type.name ->
        ((a == b) = false <->
          exists (i : Nat) (c d : Component),
            a.parts[i]? = some c ∧ b.parts[i]? = some d ∧ ¬ c.SameUpToZeros d) := by
  constructor
  · intro a b
    exact beq_symm
  constructor
  · intro a b c
    exact beq_trans
  constructor
  · intro a b h
    rw [type_eq_of_beq h]
  constructor
  · intro a
    exact beq_self_iff
  constructor
  · intro a b
    exact sameUpToZeros_of_beq
  · intro a b ha hb hname
    have htype : a.type = b.type := GlslType.name_injective hname
    have hlength : a.parts.length = b.parts.length := by
      rw [length_parts, length_parts, htype]
    rw [<- Component.not_forall₂_iff hlength, <- beq_iff_sameUpToZeros ha hb htype,
      Bool.not_eq_true]

/-- Straight up, with a zero of each sign. -/
def upward : UniformValue :=
  .vector (.num .float) .three #v[⟨0⟩, ⟨0x3F800000⟩, ⟨0x80000000⟩]

/-- Straight up, with the signs of the zeros exchanged. -/
def upwardMirrored : UniformValue :=
  .vector (.num .float) .three #v[⟨0x80000000⟩, ⟨0x3F800000⟩, ⟨0⟩]

def sideward : UniformValue :=
  .vector (.num .float) .three #v[⟨0x3F800000⟩, ⟨0⟩, ⟨0⟩]

def directionless : UniformValue :=
  .vector (.num .float) .three #v[⟨0⟩, .quietNaN, ⟨0⟩]

theorem beq_partialEquivalence_directions :
    (upward == upwardMirrored) = true ∧ (upwardMirrored == upward) = true ∧
      (upward == upward) = true ∧
      List.Forall₂ Component.SameUpToZeros upward.parts upwardMirrored.parts ∧
      ¬ directionless.IsNaNFree ∧
      upward.IsNaNFree ∧ sideward.IsNaNFree ∧ upward.type.name = sideward.type.name ∧
      exists (i : Nat) (c d : Component),
        upward.parts[i]? = some c ∧ sideward.parts[i]? = some d ∧ ¬ c.SameUpToZeros d := by
  rcases beq_partialEquivalence with ⟨hsymm, htrans, hname, hself, hparts, hdiffer⟩
  have hmirrored : (upward == upwardMirrored) = true := by decide
  have hback := hsymm upward upwardMirrored hmirrored
  have hround := htrans upward upwardMirrored upward hmirrored hback
  have hdirectionless : ¬ directionless.IsNaNFree := by
    rw [<- hself directionless]
    decide
  have hupward : upward.IsNaNFree := (hself upward).mp hround
  have hsideward : sideward.IsNaNFree := (hself sideward).mp (by decide)
  have hnames : upward.type.name = sideward.type.name := rfl
  have hdifferent : (upward == sideward) = false := by decide
  exact ⟨hmirrored, hback, hround, hparts upward upwardMirrored hmirrored, hdirectionless,
    hupward, hsideward, hnames, (hdiffer upward sideward hupward hsideward hnames).mp hdifferent⟩

end UniformValue

end ShaderUniforms
