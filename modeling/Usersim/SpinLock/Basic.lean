import Mathlib.Logic.Function.Basic
import Usersim.Basic
import Usersim.Lib.Run

/-!
# The spin locks of cxplat (`processor_winuser.cpp`, `processor_winkernel.c`)

A `cxplat_spin_lock_t` is one machine word in the caller's memory. Both platforms hand the address
of a word to a lock routine of the system: `AcquireSRWLockExclusive` and `ReleaseSRWLockExclusive`
in user mode, the `Ke*SpinLock*` routines in kernel mode. All of these lock and unlock the very
word they are given, so what the four functions of cxplat do is told by which word they pass and
by what they do to the IRQL of their thread.

A call is two steps, its start and its return. A thread that has returned from an acquire and has
not started the release is in `held`.
-/

namespace Usersim.SpinLock

open Lib

inductive Platform where
  | winuser
  | winkernel
deriving DecidableEq, Repr

/-- A word of memory that is used as a lock. -/
inductive Word where
  /-- The `cxplat_spin_lock_t` itself. -/
  | object (spinLock : Address)
  /-- The stack slot in which a call keeps its parameter `spin_lock`; no other call uses it. -/
  | parameter (call : Nat)
deriving DecidableEq, Repr

/-- What an acquire does: raise the IRQL or not, then wait for a word. -/
structure Acquire where
  raises : Bool
  word : Word
deriving DecidableEq, Repr

/-- What a release does: free a word, then lower the IRQL or not. -/
structure Release where
  word : Word
  lowersTo : Option Nat
deriving DecidableEq, Repr

/-! ## The lock routines of the system -/

def acquireSRWLockExclusive (word : Word) : Acquire := { raises := false, word := word }

def releaseSRWLockExclusive (word : Word) : Release := { word := word, lowersTo := none }

def keAcquireSpinLockRaiseToDpc (word : Word) : Acquire := { raises := true, word := word }

def keReleaseSpinLock (word : Word) (newIrql : Nat) : Release :=
  { word := word, lowersTo := some newIrql }

def keAcquireSpinLockAtDpcLevel (word : Word) : Acquire := { raises := false, word := word }

def keReleaseSpinLockFromDpcLevel (word : Word) : Release := { word := word, lowersTo := none }

/-! ## The functions of cxplat -/

def cxplatAcquireSpinLock (spinLock : Address) : Platform → Acquire
  | .winuser => { acquireSRWLockExclusive (.object spinLock) with raises := true }
  | .winkernel => keAcquireSpinLockRaiseToDpc (.object spinLock)

def cxplatReleaseSpinLock (spinLock : Address) (oldIrql : Nat) : Platform → Release
  | .winuser => { releaseSRWLockExclusive (.object spinLock) with lowersTo := some oldIrql }
  | .winkernel => keReleaseSpinLock (.object spinLock) oldIrql

/-- In kernel mode the argument is `&spin_lock`, the address of the parameter. -/
def cxplatAcquireSpinLockAtDpcLevel (spinLock : Address) (call : Nat) : Platform → Acquire
  | .winuser => acquireSRWLockExclusive (.object spinLock)
  | .winkernel => keAcquireSpinLockAtDpcLevel (.parameter call)

def cxplatReleaseSpinLockFromDpcLevel (spinLock : Address) (call : Nat) : Platform → Release
  | .winuser => releaseSRWLockExclusive (.object spinLock)
  | .winkernel => keReleaseSpinLockFromDpcLevel (.parameter call)

/-! ## Runs -/

inductive Pc where
  | idle
  /-- In an acquire, waiting for the word. -/
  | acquiring (spinLock : Address) (word : Word)
  /-- In a release, about to free the word. -/
  | releasing (spinLock : Address) (release : Release)
deriving DecidableEq, Repr

structure State where
  irql : Tid → Nat
  /-- The thread that has locked a word. -/
  owner : Word → Option Tid
  pc : Tid → Pc
  /-- The threads between the return of an acquire and the start of the release. -/
  held : List (Tid × Address)
  /-- The calls made so far; they number the stack frames. -/
  calls : Nat

def State.init : State where
  irql := fun _ => 0
  owner := fun _ => none
  pc := fun _ => .idle
  held := []
  calls := 0

inductive Action where
  | cxplatRaiseIrql (t : Tid) (irql : Nat)
  | cxplatLowerIrql (t : Tid) (irql : Nat)
  | cxplatAcquireSpinLock (t : Tid) (spinLock : Address)
  | cxplatAcquireSpinLockAtDpcLevel (t : Tid) (spinLock : Address)
  /-- The acquire gets its word and returns. -/
  | acquired (t : Tid)
  | cxplatReleaseSpinLock (t : Tid) (spinLock : Address) (oldIrql : Nat)
  | cxplatReleaseSpinLockFromDpcLevel (t : Tid) (spinLock : Address)
  /-- The release frees its word and returns. -/
  | released (t : Tid)
deriving DecidableEq, Repr

/-- An acquire starts; the annotation of both is that the thread does not hold the lock. -/
def State.startAcquire (s : State) (t : Tid) (spinLock : Address) (a : Acquire) : Option State :=
  if s.pc t = .idle ∧ (t, spinLock) ∉ s.held then
    some { s with
      irql := if a.raises then Function.update s.irql t dispatchLevel else s.irql
      pc := Function.update s.pc t (.acquiring spinLock a.word)
      calls := s.calls + 1 }
  else none

/-- A release starts; the annotation of both is that the thread holds the lock. -/
def State.startRelease (s : State) (t : Tid) (spinLock : Address) (r : Release) : Option State :=
  if s.pc t = .idle ∧ (t, spinLock) ∈ s.held then
    some { s with
      pc := Function.update s.pc t (.releasing spinLock r)
      held := s.held.filter fun h => h ≠ (t, spinLock)
      calls := s.calls + 1 }
  else none

def step (platform : Platform) (s : State) : Action → Option State
  | .cxplatRaiseIrql t irql | .cxplatLowerIrql t irql =>
    if s.pc t = .idle then some { s with irql := Function.update s.irql t irql } else none
  | .cxplatAcquireSpinLock t spinLock =>
    s.startAcquire t spinLock (cxplatAcquireSpinLock spinLock platform)
  | .cxplatAcquireSpinLockAtDpcLevel t spinLock =>
    s.startAcquire t spinLock (cxplatAcquireSpinLockAtDpcLevel spinLock s.calls platform)
  | .acquired t =>
    match s.pc t with
    | .acquiring spinLock word =>
      if s.owner word = none then
        some { s with
          owner := Function.update s.owner word (some t)
          pc := Function.update s.pc t .idle
          held := (t, spinLock) :: s.held }
      else none
    | _ => none
  | .cxplatReleaseSpinLock t spinLock oldIrql =>
    s.startRelease t spinLock (cxplatReleaseSpinLock spinLock oldIrql platform)
  | .cxplatReleaseSpinLockFromDpcLevel t spinLock =>
    s.startRelease t spinLock (cxplatReleaseSpinLockFromDpcLevel spinLock s.calls platform)
  | .released t =>
    match s.pc t with
    | .releasing _ r =>
      some { s with
        owner := Function.update s.owner r.word none
        irql := Function.update s.irql t (r.lowersTo.getD (s.irql t))
        pc := Function.update s.pc t .idle }
    | _ => none

end Usersim.SpinLock
