import ShaderUniforms.Proofs.Gl.Availability

/-!
# Slices

A vector or matrix function takes a slice: a list of numbers that may hold many
items, or none, and may end inside one.  The call made for a slice asks for the
whole items at its front and leaves the rest unread.  So a slice that ends with a
whole item can be joined with another one: the call for both asks for as many
items as the two calls together, and reads what they read.
-/

namespace ShaderUniforms

/-- A function that takes a slice, with the flag that a matrix function takes beside it. -/
inductive SliceFunction where
  | vector (e : Element) (n : Dim)
  | matrix (p : Precision) (c r : Dim) (transpose : Bool)

namespace SliceFunction

def function : SliceFunction -> UniformFunction
  | vector e n => .vector e n
  | matrix p c r _ => .matrix p c r

def transpose? : SliceFunction -> Option Bool
  | vector _ _ => none
  | matrix _ _ _ t => some t

def stride (f : SliceFunction) : Nat :=
  f.function.stride

abbrev Slice (f : SliceFunction) :=
  List f.function.element.Val

def upload : (f : SliceFunction) -> f.Slice -> Upload
  | vector e n, xs => .vector e n xs
  | matrix p c r t, xs => .matrix p c r t xs

/-- The call that asks for a number of items, with the numbers that it reads. -/
def call (f : SliceFunction) (l : UniformLocation) (count : Int32) (items : f.Slice) :
    NativeCall :=
  .uniform f.function l.value (some count) f.transpose? ⟨f.function.element, items⟩

/-- Whatever is not a single number is sent as a slice. -/
theorem exists_upload_eq (u : Upload) :
    (exists e x, u = .scalar e x) ∨
      exists (f : SliceFunction) (xs : f.Slice), u = f.upload xs := by
  cases u with
  | scalar e x => exact Or.inl ⟨e, x, rfl⟩
  | vector e n xs => exact Or.inr ⟨.vector e n, xs, rfl⟩
  | matrix p c r t xs => exact Or.inr ⟨.matrix p c r t, xs, rfl⟩

variable {f : SliceFunction}

theorem stride_pos (f : SliceFunction) : 0 < f.stride :=
  f.function.stride_pos

theorem function_upload (f : SliceFunction) (xs : f.Slice) :
    (f.upload xs).function = f.function := by
  cases f with
  | vector e n => rfl
  | matrix p c r t => rfl

theorem fits_upload_iff {xs : f.Slice} : (f.upload xs).Fits <-> xs.length < wordLimit := by
  cases f with
  | vector e n => rfl
  | matrix p c r t => rfl

/-!
## Whole items
-/

def itemCount (f : SliceFunction) (xs : f.Slice) : Nat :=
  xs.length / f.stride

/-- The numbers of the whole items at the front of the slice. -/
def wholeItems (f : SliceFunction) (xs : f.Slice) : f.Slice :=
  xs.take (f.itemCount xs * f.stride)

theorem itemCount_lt {xs : f.Slice} (hxs : xs.length < wordLimit) :
    f.itemCount xs < wordLimit :=
  Nat.lt_of_le_of_lt (Nat.div_le_self xs.length f.stride) hxs

theorem itemCount_mul_le (xs : f.Slice) : f.itemCount xs * f.stride ≤ xs.length :=
  Nat.div_mul_le_self xs.length f.stride

theorem lt_succ_itemCount_mul (xs : f.Slice) :
    xs.length < (f.itemCount xs + 1) * f.stride := by
  rw [Nat.succ_mul]
  exact Nat.lt_div_mul_add f.stride_pos

theorem wholeItems_of_dvd {xs : f.Slice} (hxs : f.stride ∣ xs.length) :
    f.wholeItems xs = xs := by
  unfold wholeItems itemCount
  rw [Nat.div_mul_cancel hxs]
  exact List.take_length

section Append

variable {xs : f.Slice} (hxs : f.stride ∣ xs.length) (ys : f.Slice)

include hxs

theorem itemCount_append : f.itemCount (xs ++ ys) = f.itemCount xs + f.itemCount ys := by
  rcases hxs with ⟨count, hcount⟩
  unfold itemCount
  rw [List.length_append, hcount, Nat.mul_add_div f.stride_pos,
    Nat.mul_div_cancel_left count f.stride_pos]

theorem wholeItems_append :
    f.wholeItems (xs ++ ys) = f.wholeItems xs ++ f.wholeItems ys := by
  have hlength : f.itemCount xs * f.stride = xs.length := Nat.div_mul_cancel hxs
  rw [wholeItems_of_dvd hxs]
  unfold wholeItems
  rw [itemCount_append hxs, Nat.add_mul, hlength]
  exact List.take_length_add_append _

end Append

/-!
## The call for a slice
-/

theorem toCall_upload {rule : CountRule} (hrule : rule.Exact) (l : UniformLocation)
    {xs : f.Slice} (hxs : xs.length < wordLimit) :
    (f.upload xs).toCall rule l =
      f.call l (Int32.ofNat (f.itemCount xs)) (f.wholeItems xs) := by
  have hstride : f.stride < wordLimit := f.function.stride_lt_wordLimit
  have hcount : rule xs.length f.stride = Int32.ofNat (f.itemCount xs) :=
    hrule hxs hstride
  have hitems : covered (rule xs.length f.stride) f.stride xs = f.wholeItems xs :=
    hrule.covered_eq hxs hstride
  rw [<- hcount, <- hitems]
  cases f with
  | vector e n => rfl
  | matrix p c r t => rfl

/--
The count and the numbers of a call for the slice: all whole items are asked
for, so that less than one item is left, and nothing beyond them is read.
-/
structure Covers (f : SliceFunction) (xs : f.Slice) (count : Int32) (items : f.Slice) :
    Prop where
  count_mul_le : count.toInt * f.stride ≤ xs.length
  lt_succ_count_mul : xs.length < (count.toInt + 1) * f.stride
  items_eq : items = xs.take (count.toInt.toNat * f.stride)

theorem toInt_itemCount {xs : f.Slice} (hxs : xs.length < wordLimit) :
    (Int32.ofNat (f.itemCount xs)).toInt = f.itemCount xs :=
  Int32.toInt_ofNat_of_lt (itemCount_lt hxs)

theorem covers_wholeItems {xs : f.Slice} (hxs : xs.length < wordLimit) :
    f.Covers xs (Int32.ofNat (f.itemCount xs)) (f.wholeItems xs) where
  count_mul_le := by
    rw [toInt_itemCount hxs]
    exact_mod_cast itemCount_mul_le xs
  lt_succ_count_mul := by
    rw [toInt_itemCount hxs]
    exact_mod_cast lt_succ_itemCount_mul xs
  items_eq := by
    rw [toInt_itemCount hxs]
    rfl

section Contexts

variable {driver : Driver} {settings : Settings}
  (hoffers : settings.Offers driver.exposes f.function) (l : UniformLocation)

include hoffers

theorem uniform_upload {xs : f.Slice} (hxs : xs.length < wordLimit) :
    Surface.uniform (Context.create driver settings) l (f.upload xs) =
      .call (f.call l (Int32.ofNat (f.itemCount xs)) (f.wholeItems xs)) := by
  have hupload : settings.Offers driver.exposes (f.upload xs).function := by
    rw [function_upload]
    exact hoffers
  rw [<- toCall_upload (driver.countRule_exact (f.upload xs).function) l hxs]
  exact Context.uniform_create_of_offers hupload l

/--
Where the function of a slice is available, sending the slice is one call, which
covers the slice.  If one slice holds whole items only, the call for it and another
one behind it has the counts and the numbers of the two calls added up.
-/
theorem uniform_covers_and_adds :
    (forall xs : f.Slice, xs.length < wordLimit ->
      exists (count : Int32) (items : f.Slice), f.Covers xs count items ∧
        Surface.uniform (Context.create driver settings) l (f.upload xs) =
          .call (f.call l count items)) ∧
    forall xs ys : f.Slice, (xs ++ ys).length < wordLimit -> f.stride ∣ xs.length ->
      exists (m n : Int32) (first second : f.Slice),
        Surface.uniform (Context.create driver settings) l (f.upload xs) =
          .call (f.call l m first) ∧
        Surface.uniform (Context.create driver settings) l (f.upload ys) =
          .call (f.call l n second) ∧
        Surface.uniform (Context.create driver settings) l (f.upload (xs ++ ys)) =
          .call (f.call l (m + n) (first ++ second)) ∧
        (m + n).toInt = m.toInt + n.toInt := by
  constructor
  · intro xs hxs
    exact ⟨_, _, covers_wholeItems hxs, uniform_upload hoffers l hxs⟩
  · intro xs ys hlength hdvd
    have hsum : xs.length + ys.length < wordLimit := by
      rw [<- List.length_append]
      exact hlength
    have hxs : xs.length < wordLimit := Nat.lt_of_le_of_lt (Nat.le_add_right _ _) hsum
    have hys : ys.length < wordLimit := Nat.lt_of_le_of_lt (Nat.le_add_left _ _) hsum
    have hcount : Int32.ofNat (f.itemCount (xs ++ ys)) =
        Int32.ofNat (f.itemCount xs) + Int32.ofNat (f.itemCount ys) := by
      rw [itemCount_append hdvd, Int32.ofNat_add]
    refine ⟨Int32.ofNat (f.itemCount xs), Int32.ofNat (f.itemCount ys), f.wholeItems xs,
      f.wholeItems ys, uniform_upload hoffers l hxs, uniform_upload hoffers l hys, ?_, ?_⟩
    · rw [<- hcount, <- wholeItems_append hdvd]
      exact uniform_upload hoffers l hlength
    · rw [<- hcount, toInt_itemCount hlength, toInt_itemCount hxs, toInt_itemCount hys,
        itemCount_append hdvd]
      exact Int.natCast_add _ _

end Contexts

/-- A matrix function whose items are eight numbers. It exchanges columns and rows. -/
def wideMatrices : SliceFunction :=
  .matrix .double .two .four true

def oneItem : wideMatrices.Slice :=
  [⟨1⟩, ⟨2⟩, ⟨3⟩, ⟨4⟩, ⟨5⟩, ⟨6⟩, ⟨7⟩, ⟨8⟩]

/-- A slice that ends inside its first item. -/
def noItem : wideMatrices.Slice :=
  [⟨9⟩, ⟨10⟩, ⟨11⟩]

theorem uniform_covers_and_adds_ragged :
    let context := Context.create (Driver.ofTables ["glUniformMatrix4x2dv"] []) {}
    Settings.Offers {} (Driver.ofTables ["glUniformMatrix4x2dv"] []).exposes
        wideMatrices.function ∧
      (exists (count : Int32) (items : wideMatrices.Slice),
        wideMatrices.Covers noItem count items ∧
          Surface.uniform context ⟨-7⟩ (wideMatrices.upload noItem) =
            .call (wideMatrices.call ⟨-7⟩ count items)) ∧
      exists (m n : Int32) (first second : wideMatrices.Slice),
        Surface.uniform context ⟨-7⟩ (wideMatrices.upload oneItem) =
          .call (wideMatrices.call ⟨-7⟩ m first) ∧
        Surface.uniform context ⟨-7⟩ (wideMatrices.upload noItem) =
          .call (wideMatrices.call ⟨-7⟩ n second) ∧
        Surface.uniform context ⟨-7⟩ (wideMatrices.upload (oneItem ++ noItem)) =
          .call (wideMatrices.call ⟨-7⟩ (m + n) (first ++ second)) ∧
        (m + n).toInt = m.toInt + n.toInt := by
  have hoffers : Settings.Offers {} (Driver.ofTables ["glUniformMatrix4x2dv"] []).exposes
      wideMatrices.function := by
    decide
  have hcovers := uniform_covers_and_adds hoffers ⟨-7⟩
  exact ⟨hoffers, hcovers.left noItem (by decide),
    hcovers.right oneItem noItem (by decide) (by decide)⟩

end SliceFunction

end ShaderUniforms
