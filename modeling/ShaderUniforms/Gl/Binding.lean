import ShaderUniforms.Native.Call
import ShaderUniforms.Outcome

/-!
# Bindings

The functions that every driver is expected to export are called through a
binding.  It has loaded them from the same driver, and it turns lists and names
into what the functions take, and their answers into what its callers get.

A binding is a library of its own and no part of this one, so it is a parameter.
A structure has the operations of it that are used, and the laws that are relied
on.  No law says how a list is counted whose length is no signed word.  The
standard binding at the end keeps all the laws.
-/

namespace ShaderUniforms

/-!
## Names

Names go to the driver as byte strings that end at the first NUL, so a name that
holds a NUL cannot be passed.
-/

def nameBytes (name : String) : List UInt8 :=
  name.toUTF8.data.toList

def nulPosition? (name : String) : Option Nat :=
  (nameBytes name).findIdx? fun b => b == 0

/-!
## Operations and laws
-/

structure Binding where
  /-- Calls a function of a driver that exports the given symbols. -/
  issue : (exposes : String -> Bool) -> NativeCall -> Outcome NativeCall Unit
  /-- How many items a function is asked for. -/
  count : CountRule
  /-- Refuses a name that cannot be passed to a driver. -/
  checkName : String -> Except Fault Unit
  /-- The index that is made of a driver's answer to a look-up. -/
  index? : Int32 -> Option UInt32
  issue_of_exposes {exposes : String -> Bool} {c : NativeCall} :
    exposes c.symbol = true -> issue exposes c = .call c
  issue_of_not_exposes {exposes : String -> Bool} {c : NativeCall} :
    exposes c.symbol = false -> issue exposes c = .fail (.aborted (.notLoaded c.function))
  count_exact : count.Exact
  checkName_of_nul {name : String} {position : Nat} :
    nulPosition? name = some position ->
      checkName name = .error (.nulInName position (nameBytes name))
  checkName_of_no_nul {name : String} :
    nulPosition? name = none -> checkName name = .ok ()
  index?_of_nonneg {answer : Int32} : 0 ≤ answer -> index? answer = some answer.toUInt32
  index?_of_neg {answer : Int32} : answer < 0 -> index? answer = none

namespace Binding

/-!
## The standard binding
-/

/-- Makes the call, or aborts if the function has not been loaded. -/
def callLoaded (exposes : String -> Bool) (c : NativeCall) : Outcome NativeCall Unit :=
  if exposes c.symbol then .call c else .fail (.aborted (.notLoaded c.function))

def refuseNul (name : String) : Except Fault Unit :=
  match nulPosition? name with
  | some position => .error (.nulInName position (nameBytes name))
  | none => .ok ()

def nonnegIndex? (answer : Int32) : Option UInt32 :=
  if answer < 0 then none else some answer.toUInt32

def standard : Binding where
  issue := callLoaded
  count := .cutThenDivide
  checkName := refuseNul
  index? := nonnegIndex?
  issue_of_exposes := by
    intro exposes c h
    simp [callLoaded, h]
  issue_of_not_exposes := by
    intro exposes c h
    simp [callLoaded, h]
  count_exact := CountRule.cutThenDivide_exact
  checkName_of_nul := by
    intro name position h
    unfold refuseNul
    rw [h]
  checkName_of_no_nul := by
    intro name h
    unfold refuseNul
    rw [h]
  index?_of_nonneg := by
    intro answer h
    exact if_neg (Int32.not_lt.mpr h)
  index?_of_neg := by
    intro answer h
    exact if_pos h

end Binding

end ShaderUniforms
