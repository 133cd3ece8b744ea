import ShaderUniforms.Proofs.Gl.Calls

/-!
# Locations from look-ups

A look-up passes a name to the driver and takes the number that comes back for a
location.  On its way the number becomes an index, if it is not negative, and then
a location again.  So there is one location only that stands for failure, whatever
negative number the driver has answered with, and every location that is found has
an index.

Names are checked byte by byte.  In the encoding of text as bytes, a zero byte is
the NUL and nothing else, so the check refuses the names that hold a NUL character;
the position that it reports counts the bytes before the first one, not the
characters.
-/

namespace ShaderUniforms

/-!
## Answers as indices
-/

namespace Location

variable {k : Variable} {answer : Int32}

/-- The location is the answer, or the one that stands for failure if that is negative. -/
structure StandsFor (l : Location k) (answer : Int32) : Prop where
  value_of_nonneg : 0 ≤ answer -> l.value = answer
  value_of_neg : answer < 0 -> l.value = -1
  isFound_iff : l.isFound = true <-> 0 ≤ answer

theorem ofAnswer_standsFor (answer : Int32) : (ofAnswer answer : Location k).StandsFor answer where
  value_of_nonneg h := by rw [ofAnswer_of_nonneg h]
  value_of_neg h := by
    rw [ofAnswer_of_neg h]
    rfl
  isFound_iff := isFound_ofAnswer_iff

/-!
### Indices of attributes
-/

/-- The attribute has the answer for its index if it is found, and no index otherwise. -/
structure IndexedBy (l : AttribLocation) (answer : Int32) : Prop where
  index?_eq_some_iff (i : UInt32) :
    l.index? = some i <-> l.isFound = true ∧ (i.toNat : Int) = answer.toInt
  isSome_index? : l.index?.isSome = l.isFound

theorem toNat_toUInt32_of_nonneg (h : 0 ≤ answer) :
    (answer.toUInt32.toNat : Int) = answer.toInt := by
  rw [Int32.toNat_toUInt32_of_le h]
  have hint : 0 ≤ answer.toInt := Int32.le_iff_toInt_le.mp h
  exact Int.toNat_of_nonneg hint

theorem index?_ofAnswer_of_nonneg (h : 0 ≤ answer) :
    (ofAnswer answer : AttribLocation).index? = some answer.toUInt32 := by
  rw [ofAnswer_of_nonneg h]
  exact if_neg (Int32.not_lt.mpr h)

theorem ofAnswer_indexedBy (answer : Int32) : (ofAnswer answer : AttribLocation).IndexedBy answer := by
  by_cases hnegative : answer < 0
  · rw [ofAnswer_of_neg hnegative]
    constructor
    · intro i
      constructor
      · intro h
        cases h
      · intro h
        cases h.left
    · rfl
  · have hnonneg : 0 ≤ answer := Int32.not_lt.mp hnegative
    have hfound : (ofAnswer answer : AttribLocation).isFound = true :=
      isFound_ofAnswer_iff.mpr hnonneg
    have hanswer := toNat_toUInt32_of_nonneg hnonneg
    constructor
    · intro i
      rw [index?_ofAnswer_of_nonneg hnonneg]
      constructor
      · intro h
        cases h
        exact ⟨hfound, hanswer⟩
      · intro h
        have hnat : i.toNat = answer.toUInt32.toNat := by
          have hi := h.right
          omega
        rw [UInt32.toNat_inj.mp hnat]
    · rw [index?_ofAnswer_of_nonneg hnonneg, hfound]
      rfl

end Location

namespace Context

/-!
## Bytes of a name
-/

/-- The character that names passed to a driver do not hold. -/
def nul : Char :=
  '\x00'

theorem nameBytes_eq (name : String) :
    nameBytes name = name.toList.flatMap String.utf8EncodeChar := by
  show name.toByteArray.data.toList = _
  rw [<- String.utf8Encode_toList]
  exact List.toList_data_toByteArray

theorem length_nameBytes (name : String) : (nameBytes name).length = name.utf8ByteSize :=
  rfl

theorem nameBytes_append (a b : String) : nameBytes (a ++ b) = nameBytes a ++ nameBytes b := by
  rw [nameBytes_eq, nameBytes_eq, nameBytes_eq, String.toList_append, List.flatMap_append]

private theorem ofNat_ne_zero {x : Nat} (hpos : 0 < x) (hx : x < 256) : 0 ≠ UInt8.ofNat x := by
  intro h
  have hnat : (UInt8.ofNat x).toNat = x := UInt8.toNat_ofNat_of_lt' hx
  rw [<- h] at hnat
  exact Nat.ne_of_lt hpos hnat

/-- Of all characters, the NUL alone is encoded with a zero byte. -/
theorem zero_notMem_utf8EncodeChar {c : Char} (hc : c ≠ nul) :
    0 ∉ String.utf8EncodeChar c := by
  have hpos : 0 < c.val.toNat := by
    apply Nat.pos_of_ne_zero
    intro hzero
    exact hc (Char.ext (UInt32.toNat_inj.mp hzero))
  -- A character of more than one byte has the high bit set in each of them.
  have hhigh : forall x b : Nat, 128 ≤ b -> x + b < 256 -> 0 ≠ UInt8.ofNat (x + b) := by
    intro x b hb hlt
    exact ofNat_ne_zero (by omega) hlt
  unfold String.utf8EncodeChar
  dsimp only
  by_cases hone : c.val.toNat ≤ 127
  · rw [if_pos hone, List.mem_singleton]
    exact ofNat_ne_zero hpos (by omega)
  · rw [if_neg hone]
    repeat' split
    all_goals
      simp only [List.mem_cons, List.not_mem_nil, or_false, not_or]
      and_intros <;> exact hhigh _ _ (by omega) (by omega)

theorem zero_notMem_nameBytes {name : String} (hnul : nul ∉ name.toList) :
    0 ∉ nameBytes name := by
  rw [nameBytes_eq]
  intro hzero
  rcases List.mem_flatMap.mp hzero with ⟨c, hc, hbyte⟩
  have hne : c ≠ nul := by
    intro h
    rw [h] at hc
    exact hnul hc
  exact zero_notMem_utf8EncodeChar hne hbyte

/-- A text that holds a NUL is what stands before its first one, and the rest. -/
theorem exists_before_nul {name : String} (hnul : nul ∈ name.toList) :
    exists before after : String,
      name = before ++ String.singleton nul ++ after ∧ nul ∉ before.toList := by
  rcases List.eq_append_cons_of_mem hnul with ⟨before, after, hsplit, hbefore⟩
  exists String.ofList before, String.ofList after
  constructor
  · apply String.toList_inj.mp
    simp [hsplit]
  · rw [String.toList_ofList]
    exact hbefore

/-!
## The check of names
-/

/--
The position is that of the first zero byte of the name, and the bytes before it
are those of the text before the first NUL.
-/
structure FirstNul (name : String) (position : Nat) : Prop where
  zero_at : (nameBytes name)[position]? = some 0
  ne_zero_before (i : Nat) (hi : i < position) : (nameBytes name)[i]? ≠ some 0
  text_before : exists before after : String,
    name = before ++ String.singleton nul ++ after ∧ nul ∉ before.toList ∧
      position = before.utf8ByteSize

theorem nulPosition?_of_notMem {name : String} (hnul : nul ∉ name.toList) :
    nulPosition? name = none := by
  unfold nulPosition?
  rw [List.findIdx?_eq_none_iff]
  intro b hb
  apply beq_eq_false_iff_ne.mpr
  intro hzero
  rw [hzero] at hb
  exact zero_notMem_nameBytes hnul hb

theorem nulPosition?_of_first {before after : String} (hbefore : nul ∉ before.toList) :
    nulPosition? (before ++ String.singleton nul ++ after) = some before.utf8ByteSize := by
  have hnone : (nameBytes before).findIdx? (fun b => b == 0) = none :=
    nulPosition?_of_notMem hbefore
  have hnul : nameBytes (String.singleton nul) = [0] := rfl
  unfold nulPosition?
  rw [nameBytes_append, nameBytes_append, hnul, List.append_assoc, List.findIdx?_append, hnone,
    <- length_nameBytes]
  simp [List.findIdx?_cons]

/-- The check finds the first NUL of a name that holds one. -/
theorem exists_firstNul {name : String} (hnul : nul ∈ name.toList) :
    exists position, nulPosition? name = some position ∧ FirstNul name position := by
  rcases exists_before_nul hnul with ⟨before, after, hname, hbefore⟩
  have hposition : nulPosition? name = some before.utf8ByteSize := by
    rw [hname]
    exact nulPosition?_of_first hbefore
  rcases List.findIdx?_eq_some_iff_getElem.mp hposition with ⟨hlt, hzero, hearlier⟩
  refine ⟨before.utf8ByteSize, hposition, ?_, ?_, ⟨before, after, hname, hbefore, rfl⟩⟩
  · rw [List.getElem?_eq_getElem hlt, beq_iff_eq.mp hzero]
  · intro i hi hbyte
    rw [List.getElem?_eq_getElem (Nat.lt_trans hi hlt)] at hbyte
    injection hbyte with hbyte
    exact hearlier i hi (beq_iff_eq.mpr hbyte)

/-!
## Look-ups
-/

/-- The look-up asks the driver once, for this name of the program, and returns the location. -/
structure Finds (context : Context) {k : Variable} (p : Program) (name : String)
    (l : Location k) : Prop where
  outcome : context.locate k p name = { result := .ok l, calls := [.getLocation k p.id name] }
  standsFor : l.StandsFor (context.driver.locate k p.id name)

theorem finds_ofAnswer {context : Context} {k : Variable}
    (hexposes : context.driver.exposes (NativeFunction.getLocation k).symbol = true)
    (p : Program) {name : String} (hnul : nul ∉ name.toList) :
    context.Finds p name (.ofAnswer (context.driver.locate k p.id name) : Location k) where
  outcome := locate_of_exposes (nulPosition?_of_notMem hnul) hexposes
  standsFor := Location.ofAnswer_standsFor _

/--
A look-up turns every answer of the driver into a location: the answer itself, or
if that is negative the one location that is not found.  An attribute that is found
has its number for an index.  A name that holds a NUL is refused before anything is
called, with the position of its first zero byte.
-/
theorem locate_normalises (context : Context) (p : Program) (name : String) :
    ((forall k, context.driver.exposes (NativeFunction.getLocation k).symbol = true) ->
      nul ∉ name.toList ->
        (exists l : UniformLocation, context.Finds p name l) ∧
        exists l : AttribLocation, context.Finds p name l ∧
          l.IndexedBy (context.driver.locate .attribute p.id name)) ∧
      (nul ∈ name.toList ->
        exists position, FirstNul name position ∧
          forall k, context.locate k p name =
            .fail (.aborted (.nulInName position (nameBytes name)))) ∧
      forall k,
        (do
          let index <- context.locateIndex k p name
          pure (Location.ofIndex? index)) = context.locate k p name := by
  constructor
  · intro hexposes hnul
    constructor
    · exact ⟨_, finds_ofAnswer (hexposes .uniform) p hnul⟩
    · exact ⟨_, finds_ofAnswer (hexposes .attribute) p hnul, Location.ofAnswer_indexedBy _⟩
  constructor
  · intro hnul
    rcases exists_firstNul hnul with ⟨position, hposition, hfirst⟩
    exists position
    constructor
    · exact hfirst
    · intro k
      exact locate_of_nul hposition
  · intro k
    rfl

/-- A driver that finds a name among the uniforms, and has a negative answer for it elsewhere. -/
def heightDriver : Driver :=
  .ofTables ["glUniform1f"] [⟨12, [("höhe", 3)], [("höhe", -2)]⟩]

def heightProgram : Program :=
  ⟨12, by decide⟩

theorem locate_normalises_height :
    (forall k, (create heightDriver {}).driver.exposes
        (NativeFunction.getLocation k).symbol = true) ∧
      nul ∉ "höhe".toList ∧
      (exists l : UniformLocation, (create heightDriver {}).Finds heightProgram "höhe" l ∧
        l.StandsFor 3) ∧
      (exists l : AttribLocation, (create heightDriver {}).Finds heightProgram "höhe" l ∧
        l.IndexedBy (-2)) ∧
      nul ∈ "höhe\x00".toList ∧
      FirstNul "höhe\x00" 5 ∧
      (create heightDriver {}).locate .attribute heightProgram "höhe\x00" =
        .fail (.aborted (.nulInName 5 (nameBytes "höhe\x00"))) := by
  have hexposes : forall k, (create heightDriver {}).driver.exposes
      (NativeFunction.getLocation k).symbol = true := by
    intro k
    cases k <;> decide
  have hnul : nul ∉ "höhe".toList := by decide
  have hnulAfter : nul ∈ "höhe\x00".toList := by decide
  rcases (locate_normalises (create heightDriver {}) heightProgram "höhe").left hexposes hnul with
    ⟨⟨l, hl⟩, hattribute⟩
  rcases (locate_normalises (create heightDriver {}) heightProgram "höhe\x00").right.left
    hnulAfter with ⟨position, hfirst, haborts⟩
  have hposition : (create heightDriver {}).locate .attribute heightProgram "höhe\x00" =
      .fail (.aborted (.nulInName 5 (nameBytes "höhe\x00"))) :=
    locate_of_nul (by decide)
  have hfive : position = 5 := by
    have hsame := (haborts .attribute).symm.trans hposition
    cases hsame
    rfl
  rw [hfive] at hfirst
  exact ⟨hexposes, hnul, ⟨l, hl, hl.standsFor⟩, hattribute, hnulAfter, hfirst, hposition⟩

end Context

end ShaderUniforms
