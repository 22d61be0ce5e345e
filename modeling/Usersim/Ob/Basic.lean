import Mathlib.Algebra.Group.Nat.Defs
import Mathlib.Logic.Function.Basic
import Usersim.Lib.Run

/-!
# References to objects (`ob.cpp`)

`_object_references` counts the references that were taken to an object and not dropped. The
reference that a handle is has no entry there, and `ObCloseHandle` drops one like any other.
The access mode, the desired access and the object type are ignored by the code.
-/

namespace Usersim.Ob

abbrev Pvoid := BitVec 64

abbrev Ulong := BitVec 32

abbrev LongPtr := BitVec 64

inductive NtStatus where
  | success
  | notSupported
deriving DecidableEq, Repr

structure State where
  /-- `_object_references`. -/
  objectReferences : Pvoid → Option Ulong
  /-- The handles that were passed to `CloseHandle`, the last one first. -/
  closed : List Pvoid

/-- The count of an object, as `operator[]` reads it: an absent one is made with 0. -/
def State.count (s : State) (object : Pvoid) : Ulong := (s.objectReferences object).getD 0

def obfReferenceObject (s : State) (object : Pvoid) : State × LongPtr :=
  let references : Ulong :=
    match s.objectReferences object with
    | none => 1
    | some count => count + 1
  ({ s with objectReferences := Function.update s.objectReferences object (some references) },
    references.setWidth 64)

def obfDereferenceObject (s : State) (object : Pvoid) : State × LongPtr :=
  let remaining := s.count object - 1
  if remaining = 0 then
    ({ objectReferences := Function.update s.objectReferences object none
       closed := object :: s.closed }, 0)
  else
    ({ s with objectReferences := Function.update s.objectReferences object (some remaining) },
      remaining.setWidth 64)

/-- `handleInformation` says whether the caller asks for it. -/
def obReferenceObjectByHandle (s : State) (handle : Pvoid) (handleInformation : Bool) :
    State × NtStatus × Pvoid :=
  let object := handle
  if handleInformation then (s, .notSupported, object)
  else ((obfReferenceObject s object).1, .success, object)

def obCloseHandle (s : State) (handle : Pvoid) : State × NtStatus :=
  ((obfDereferenceObject s handle).1, .success)

inductive Call where
  | referenceObjectByHandle (handle : Pvoid) (handleInformation : Bool)
  | referenceObject (object : Pvoid)
  | dereferenceObject (object : Pvoid)
  | closeHandle (handle : Pvoid)
deriving DecidableEq, Repr

def State.step (s : State) : Call → State
  | .referenceObjectByHandle handle handleInformation =>
    (obReferenceObjectByHandle s handle handleInformation).1
  | .referenceObject object => (obfReferenceObject s object).1
  | .dereferenceObject object => (obfDereferenceObject s object).1
  | .closeHandle handle => (obCloseHandle s handle).1

/-! ## What the calls do to the count of an object -/

variable {s : State} {object other : Pvoid}

@[simp] theorem count_reference :
    (obfReferenceObject s object).1.count object = s.count object + 1 := by
  unfold obfReferenceObject State.count
  cases s.objectReferences object <;> simp

theorem count_reference_of_ne (h : object ≠ other) :
    (obfReferenceObject s other).1.count object = s.count object := by
  simp [obfReferenceObject, State.count, Function.update_of_ne h]

@[simp] theorem closed_reference : (obfReferenceObject s other).1.closed = s.closed := rfl

@[simp] theorem count_dereference :
    (obfDereferenceObject s object).1.count object = s.count object - 1 := by
  unfold obfDereferenceObject
  by_cases h : s.count object - 1 = 0
  · simp only [h, if_true]
    simp [State.count]
  · simp only [if_neg h]
    simp [State.count]

theorem count_dereference_of_ne (h : object ≠ other) :
    (obfDereferenceObject s other).1.count object = s.count object := by
  unfold obfDereferenceObject
  dsimp only
  split
  · simp [State.count, Function.update_of_ne h]
  · simp [State.count, Function.update_of_ne h]

/-- The handle is closed when the count comes to 0. -/
theorem closed_dereference : (obfDereferenceObject s other).1.closed =
    if s.count other - 1 = 0 then other :: s.closed else s.closed := by
  unfold obfDereferenceObject
  dsimp only
  split
  · rfl
  · rfl

end Usersim.Ob
