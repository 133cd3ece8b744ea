import ShaderUniforms.Proofs.Glsl.Equality
import ShaderUniforms.Surface.Recording

/-!
# What a recorded upload tells

Two uploads are recorded alike just when they go to the same location with the
same value, where a boolean counts as the integer that is sent for it.  Many
values share their list of numbers with a value of another shape, so the list
alone does not tell them apart; the function does.
-/

namespace ShaderUniforms

/-!
## Types that share a function
-/

namespace GlslType

/-- The first type has booleans where the second one has integers. -/
inductive BoolsForInts : GlslType -> GlslType -> Prop where
  | scalar : BoolsForInts (.scalar .bool) (.scalar (.num .int))
  | vector (n : Dim) : BoolsForInts (.vector .bool n) (.vector (.num .int) n)

theorem eq_or_bool_of_element_eq {s t : Scalar} (h : s.element = t.element) :
    s = t ∨ (s = .bool ∧ t = .num .int) ∨ (t = .bool ∧ s = .num .int) := by
  cases s with
  | num e =>
      cases t with
      | num f => exact Or.inl (congrArg Scalar.num h)
      | bool => exact Or.inr (Or.inr ⟨rfl, congrArg Scalar.num h⟩)
  | bool =>
      cases t with
      | num f => exact Or.inr (Or.inl ⟨rfl, congrArg Scalar.num h.symm⟩)
      | bool => exact Or.inl rfl

theorem eq_or_boolsForInts {s t : GlslType} (h : s.withoutBools = t.withoutBools) :
    s = t ∨ s.BoolsForInts t ∨ t.BoolsForInts s := by
  cases s with
  | scalar s =>
      cases t with
      | scalar t =>
          injection h with hnum
          injection hnum with helement
          rcases eq_or_bool_of_element_eq helement with hst | ⟨hs, ht⟩ | ⟨ht, hs⟩
          · exact Or.inl (congrArg GlslType.scalar hst)
          · rw [hs, ht]
            exact Or.inr (Or.inl .scalar)
          · rw [hs, ht]
            exact Or.inr (Or.inr .scalar)
      | vector t n => cases h
      | matrix p c r => cases h
  | vector s m =>
      cases t with
      | scalar t => cases h
      | vector t n =>
          injection h with hnum hdim
          injection hnum with helement
          rw [hdim]
          rcases eq_or_bool_of_element_eq helement with hst | ⟨hs, ht⟩ | ⟨ht, hs⟩
          · rw [hst]
            exact Or.inl rfl
          · rw [hs, ht]
            exact Or.inr (Or.inl (.vector n))
          · rw [hs, ht]
            exact Or.inr (Or.inr (.vector n))
      | matrix p c r => cases h
  | matrix p c r =>
      cases t with
      | scalar t => cases h
      | vector t n => cases h
      | matrix q d k => exact Or.inl h

end GlslType

/-!
## Integers in place of booleans

What takes the place of a boolean is said here without the encoding by which
uploads turn components into numbers.
-/

namespace UniformValue

def integersForBools : UniformValue -> UniformValue
  | scalar .bool b => scalar (.num .int) (if b then 1 else 0 : Int32)
  | vector .bool n v => vector (.num .int) n (v.map fun b => (if b then 1 else 0 : Int32))
  | v => v

theorem integersForBools_eq_withoutBools (v : UniformValue) :
    v.integersForBools = v.withoutBools := by
  cases v with
  | scalar s x =>
      cases s with
      | num e => rfl
      | bool => rfl
  | vector s n v =>
      cases s with
      | num e =>
          show vector (.num e) n v = vector (.num e) n (v.map fun x => x)
          rw [Vector.map_id_fun']
          rfl
      | bool => rfl
  | matrix p c r m => rfl

/-!
## Numbers of an upload
-/

/-- Values of one type are equal just when the numbers that are sent for them are. -/
theorem components_beq_of_type_eq {a b : UniformValue} (htype : a.type = b.type) :
    (a.toUpload.components == b.toUpload.components) = (a == b) := by
  cases sameType_of_type_eq htype with
  | scalar s x y =>
      show ((⟨_, [s.encode x]⟩ : Components) == ⟨_, [s.encode y]⟩) = _
      rw [Components.mk_beq_mk, scalar_beq_scalar, <- s.encode_beq_encode]
      simp
  | vector s n v w =>
      show ((⟨_, (v.map s.encode).toList⟩ : Components) ==
        ⟨_, (w.map s.encode).toList⟩) = _
      rw [Components.mk_beq_mk, Vector.toList_beq_toList, vector_beq_vector]
      exact s.map_encode_beq_map_encode v w
  | matrix p c r m k =>
      show ((⟨_, m.toList⟩ : Components) == ⟨_, k.toList⟩) = _
      rw [Components.mk_beq_mk, matrix_beq_matrix]
      exact m.toList_beq_toList k

theorem transpose?_eq_of_type_eq {a b : UniformValue} (htype : a.type = b.type) :
    a.toUpload.transpose? = b.toUpload.transpose? := by
  cases a <;> cases b <;> cases htype <;> rfl

end UniformValue

/-!
## Records
-/

namespace Recording

theorem record_beq_record {l m : UniformLocation} {u v : Upload} :
    (record l u == record m v) = true <->
      u.function = v.function ∧ l = m ∧ u.transpose? = v.transpose? ∧
        (u.components == v.components) = true := by
  unfold record
  rw [RecordedCall.uniform_beq_uniform, Bool.and_eq_true, Bool.and_eq_true,
    Bool.and_eq_true, beq_iff_eq, beq_iff_eq, beq_iff_eq, Location.ext_iff, and_assoc,
    and_assoc]

/-- Values are recorded alike if they are equal up to booleans, and only then. -/
theorem record_toUpload_beq_iff (l m : UniformLocation) (a b : UniformValue) :
    (record l a.toUpload == record m b.toUpload) = true <->
      l = m ∧ (a.withoutBools == b.withoutBools) = true := by
  have hfunction : a.toUpload.function = b.toUpload.function <->
      a.withoutBools.type = b.withoutBools.type := by
    rw [a.function_toUpload, b.function_toUpload, GlslType.function_eq_iff,
      a.type_withoutBools, b.type_withoutBools]
  rw [record_beq_record, hfunction]
  -- What is sent for a value is what is sent for it without booleans.
  rw [<- a.toUpload_withoutBools, <- b.toUpload_withoutBools]
  constructor
  · intro h
    rcases h with ⟨htype, hl, _, hcomponents⟩
    rw [UniformValue.components_beq_of_type_eq htype] at hcomponents
    exact ⟨hl, hcomponents⟩
  · intro h
    rcases h with ⟨hl, hvalue⟩
    have htype : a.withoutBools.type = b.withoutBools.type :=
      UniformValue.type_eq_of_beq hvalue
    refine ⟨htype, hl, UniformValue.transpose?_eq_of_type_eq htype, ?_⟩
    rw [UniformValue.components_beq_of_type_eq htype]
    exact hvalue

theorem boolsForInts_of_record_beq {l m : UniformLocation} {a b : UniformValue}
    (h : (record l a.toUpload == record m b.toUpload) = true) :
    a.type = b.type ∨ a.type.BoolsForInts b.type ∨ b.type.BoolsForInts a.type := by
  have hfunction := (record_beq_record.mp h).left
  rw [UniformValue.function_toUpload, UniformValue.function_toUpload] at hfunction
  exact GlslType.eq_or_boolsForInts (GlslType.function_eq_iff.mp hfunction)

/--
The record of an upload tells the location and the value, as far as numbers can
be told apart and but for booleans, which are recorded as integers.  Values of
different types are recorded alike only if one holds booleans and the other
holds integers in the same shape.
-/
theorem upload_beq_iff (l m : UniformLocation) (a b : UniformValue) :
    exists c d : RecordedCall,
      Surface.upload ({} : Recording) l a = .call c ∧
      Surface.upload ({} : Recording) m b = .call d ∧
      ((c == d) = true <-> l = m ∧ (a.integersForBools == b.integersForBools) = true) ∧
      ((c == d) = true ->
        a.type = b.type ∨ a.type.BoolsForInts b.type ∨ b.type.BoolsForInts a.type) := by
  refine ⟨record l a.toUpload, record m b.toUpload, rfl, rfl, ?_, ?_⟩
  · rw [a.integersForBools_eq_withoutBools, b.integersForBools_eq_withoutBools]
    exact record_toUpload_beq_iff l m a b
  · exact boolsForInts_of_record_beq

end Recording

end ShaderUniforms
