import Mathlib.Logic.Function.Basic
import Usersim.Basic
import Usersim.Lib.Linearizable
import Usersim.Lib.Run

/-!
# Semaphores (`ke.cpp`)

The count of a `KSEMAPHORE` is that of an OS semaphore, which is changed in single steps.
`KeReadStateSemaphore` cannot ask for it: it takes a unit and gives it back.

A thread calls `KeReadStateSemaphore`, `KeWaitForSingleObject` with a timeout of zero, or
`KeReleaseSemaphore` within the limit. `borrowers`, `calls` and `history` are not part of the code:
they record which reads have yet to give their unit back, and number the calls of each thread.
-/

namespace Usersim.Semaphore

open Lib

inductive Call where
  | keReadStateSemaphore
  | keWaitForSingleObject
  | keReleaseSemaphore (adjustment : Nat)
deriving DecidableEq, Repr

inductive Result where
  | state (value : Nat)
  | statusSuccess
  | statusTimeout
  | previousCount (count : Nat)
deriving DecidableEq, Repr

/-! ## The OS semaphore -/

/-- WaitForSingleObject without waiting: the count afterwards, or `none` for WAIT_TIMEOUT. -/
def waitForSingleObject (count : Nat) : Option Nat := if count = 0 then none else some (count - 1)

/-- ReleaseSemaphore: the count afterwards and the one before; `none` if it fails. -/
def releaseSemaphore (limit count releaseCount : Nat) : Option (Nat × Nat) :=
  if 0 < releaseCount ∧ count + releaseCount ≤ limit then some (count + releaseCount, count)
  else none

/-! ## The calls -/

inductive Pc where
  | idle
  | called (call : Call)
  /-- `KeReadStateSemaphore` has taken a unit. -/
  | taken
  | returning (result : Result)
deriving DecidableEq, Repr

/-- The calls of a thread are numbered. -/
abbrev CallId := Tid × Nat

structure State where
  count : Nat
  limit : Nat
  pc : Tid → Pc
  /-- The threads that are in `taken`. -/
  borrowers : List Tid
  /-- How many calls a thread has returned from. -/
  calls : Tid → Nat
  history : List (CallEvent CallId Call Result)

/-- `KeInitializeSemaphore`. -/
def State.init (count limit : Nat) : State where
  count := count
  limit := limit
  pc := fun _ => .idle
  borrowers := []
  calls := fun _ => 0
  history := []

inductive Action where
  | call (t : Tid) (call : Call)
  /-- A call of the OS. -/
  | access (t : Tid)
  | returns (t : Tid)
deriving DecidableEq, Repr

def State.setPc (s : State) (t : Tid) (pc : Pc) : State :=
  { s with pc := Function.update s.pc t pc }

/-- The count, with the units that are to be given back. -/
def State.semaphoreCount (s : State) : Nat := s.count + s.borrowers.length

/-- The first call of the OS. A release that goes beyond the limit is not made. -/
def State.access (s : State) (t : Tid) : Call → Option State
  | .keReadStateSemaphore =>
    match waitForSingleObject s.count with
    | none => some (s.setPc t (.returning (.state 0)))
    | some count => some { s.setPc t .taken with count := count, borrowers := t :: s.borrowers }
  | .keWaitForSingleObject =>
    match waitForSingleObject s.count with
    | none => some (s.setPc t (.returning .statusTimeout))
    | some count => some { s.setPc t (.returning .statusSuccess) with count := count }
  | .keReleaseSemaphore adjustment =>
    if s.semaphoreCount + adjustment ≤ s.limit then
      match releaseSemaphore s.limit s.count adjustment with
      | none => none
      | some (count, previousCount) =>
        some { s.setPc t (.returning (.previousCount previousCount)) with count := count }
    else none

/-- The read releases what it has taken; whether that fails is not looked at. -/
def State.giveBack (s : State) (t : Tid) : State :=
  let count := match releaseSemaphore s.limit s.count 1 with
    | none => s.count
    | some (count, _) => count
  { s.setPc t (.returning (.state 1)) with count := count, borrowers := s.borrowers.erase t }

def step (s : State) : Action → Option State
  | .call t call =>
    if s.pc t = .idle then
      some { s.setPc t (.called call) with
        history := s.history ++ [.invoke (t, s.calls t) call] }
    else none
  | .access t =>
    match s.pc t with
    | .called call => s.access t call
    | .taken => some (s.giveBack t)
    | .idle | .returning _ => none
  | .returns t =>
    match s.pc t with
    | .returning result =>
      some { s.setPc t .idle with
        calls := Function.update s.calls t (s.calls t + 1)
        history := s.history ++ [.respond (t, s.calls t) result] }
    | .idle | .called _ | .taken => none

/-! ## A counting semaphore -/

/-- What a call returns of a semaphore with the count, and the count it leaves. -/
def semaphoreSpec (limit count : Nat) : Call → Option (Nat × Result)
  | .keReadStateSemaphore => some (count, .state (if count = 0 then 0 else 1))
  | .keWaitForSingleObject =>
    if count = 0 then some (0, .statusTimeout) else some (count - 1, .statusSuccess)
  | .keReleaseSemaphore adjustment =>
    if 0 < adjustment ∧ count + adjustment ≤ limit then
      some (count + adjustment, .previousCount count)
    else none

end Usersim.Semaphore
