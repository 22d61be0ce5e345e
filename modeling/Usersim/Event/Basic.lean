import Mathlib.Logic.Function.Basic
import Usersim.Basic
import Usersim.Lib.Run

/-!
# Kernel events (`ke.cpp`)

`KeSetEvent`, `KeClearEvent` and `_wait_for_kevent` change `signaled` under the event's spin lock
and sleep on its address without it. So every access to something shared is a step of its own: a
thread raises its IRQL, gets the spin lock, reads `signaled`, writes it, frees the spin lock,
lowers its IRQL, and only then wakes the sleepers or goes to sleep.

The clock and `WaitOnAddress` are outside: a sleeper may be woken for no reason, time out at any
moment, and find after waking that its time is up. `returned`, `decided` and `callerIrql` are not
part of the code; they record what the calls returned, the results that are fixed but not returned
yet, and the levels the calls were made at.
-/

namespace Usersim.Event

/-- `usersim_object_type_t`. -/
inductive ObjectType where
  | unknown
  | semaphore
  | timer
  | event
deriving DecidableEq, Repr

inductive EventType where
  | notificationEvent
  | synchronizationEvent
deriving DecidableEq, Repr

/-- `KEVENT`; its spin lock is the `owner` of the state below. -/
structure Kevent where
  objectType : ObjectType
  type : EventType
  signaled : Bool
deriving DecidableEq, Repr

def keInitializeEvent (type : EventType) (initialState : Bool) : Kevent where
  objectType := .event
  type := type
  signaled := initialState

inductive Call where
  | keSetEvent
  | keClearEvent
  | keWaitForSingleObject
deriving DecidableEq, Repr

/-- What a call returns, and for `KeClearEvent` what it found. -/
inductive Outcome where
  | previousState (signaled : Bool)
  | cleared (signaled : Bool)
  | statusSuccess
  | statusTimeout
deriving DecidableEq, Repr

/-- What a call does once it has released the spin lock. -/
inductive After where
  | returnWith (outcome : Outcome)
  | wakeByAddressAll (previous : Bool)
  | waitOnAddress (oldState : Bool)
deriving DecidableEq, Repr

inductive Pc where
  | idle
  /-- At `DISPATCH_LEVEL`, waiting for the spin lock. -/
  | raised (call : Call) (oldIrql : Nat)
  | locked (call : Call) (oldIrql : Nat)
  /-- It has read `signaled`. -/
  | read (call : Call) (signaled : Bool) (oldIrql : Nat)
  /-- It has written `signaled` and is about to free the spin lock. -/
  | written (after : After) (oldIrql : Nat)
  /-- It has freed the spin lock and is about to lower its IRQL. -/
  | unlocked (after : After) (oldIrql : Nat)
  | waking (previous : Bool)
  /-- About to call `WaitOnAddress`. -/
  | comparing (oldState : Bool)
  | asleep
  /-- `WaitOnAddress` has returned TRUE. -/
  | woken
deriving DecidableEq, Repr

/-- A call that has returned. -/
structure Returned where
  thread : Tid
  outcome : Outcome
  irqlBefore : Nat
  irqlAfter : Nat
deriving DecidableEq, Repr

structure State where
  event : Kevent
  /-- The owner of `event->spin_lock`. -/
  owner : Option Tid
  irql : Tid → Nat
  pc : Tid → Pc
  callerIrql : Tid → Nat
  decided : List (Tid × Outcome)
  returned : List Returned

def State.init (type : EventType) (initialState : Bool) : State where
  event := keInitializeEvent type initialState
  owner := none
  irql := fun _ => 0
  pc := fun _ => .idle
  callerIrql := fun _ => 0
  decided := []
  returned := []

inductive Action where
  /-- The thread changes its IRQL between two calls. -/
  | setIrql (t : Tid) (irql : Nat)
  | call (t : Tid) (call : Call)
  | lock (t : Tid)
  | read (t : Tid)
  | write (t : Tid)
  | unlock (t : Tid)
  | lower (t : Tid)
  | wakeByAddressAll (t : Tid)
  /-- The comparison with which `WaitOnAddress` starts. -/
  | waitOnAddress (t : Tid)
  /-- `WaitOnAddress` returns TRUE without having been woken. -/
  | wakeUp (t : Tid)
  | timeOut (t : Tid)
  /-- The clock is read after `WaitOnAddress`. -/
  | queryTime (t : Tid) (expired : Bool)
deriving DecidableEq, Repr

def Action.thread : Action → Tid
  | .setIrql t _ | .call t _ | .lock t | .read t | .write t | .unlock t | .lower t
  | .wakeByAddressAll t | .waitOnAddress t | .wakeUp t | .timeOut t | .queryTime t _ => t

/-! ## The critical sections -/

/-- What a call that has read `signaled` writes, and what it does after the critical section. -/
def criticalSection (event : Kevent) (seen : Bool) : Call → Bool × After
  | .keSetEvent => (true, .wakeByAddressAll seen)
  | .keClearEvent => (false, .returnWith (.cleared event.signaled))
  | .keWaitForSingleObject =>
    if seen then
      (if event.type = .synchronizationEvent then false else event.signaled,
        .returnWith .statusSuccess)
    else (event.signaled, .waitOnAddress event.signaled)

/-- The result that is fixed by the critical section, if one is. -/
def After.outcome : After → Option Outcome
  | .returnWith outcome => some outcome
  | .wakeByAddressAll previous => some (.previousState previous)
  | .waitOnAddress _ => none

/-- `KeAcquireSpinLock` up to the wait for the lock. -/
def State.raise (s : State) (t : Tid) (call : Call) : State :=
  { s with
    irql := Function.update s.irql t dispatchLevel
    pc := Function.update s.pc t (.raised call (s.irql t)) }

def State.setPc (s : State) (t : Tid) (pc : Pc) : State :=
  { s with pc := Function.update s.pc t pc }

def State.wakeSleepers (s : State) : State :=
  { s with pc := fun u => if s.pc u = .asleep then .woken else s.pc u }

/-- The call of `t` returns. -/
def State.returnWith (s : State) (t : Tid) (outcome : Outcome) : State :=
  { s with
    pc := Function.update s.pc t .idle
    decided := s.decided.erase (t, outcome)
    returned := { thread := t, outcome := outcome, irqlBefore := s.callerIrql t,
                  irqlAfter := s.irql t } :: s.returned }

/-- What a call does when it is back at its caller's IRQL. -/
def State.resume (s : State) (t : Tid) : After → State
  | .returnWith outcome => s.returnWith t outcome
  | .wakeByAddressAll previous => s.setPc t (.waking previous)
  | .waitOnAddress oldState => s.setPc t (.comparing oldState)

/-! ## Runs -/

def step (s : State) : Action → Option State
  | .setIrql t irql =>
    if s.pc t = .idle then some { s with irql := Function.update s.irql t irql } else none
  | .call t call =>
    -- `KeWaitForSingleObject` dispatches on the type of the object, the other two assert it
    if s.pc t = .idle ∧ s.event.objectType = .event then
      some { s.raise t call with callerIrql := Function.update s.callerIrql t (s.irql t) }
    else none
  | .lock t =>
    match s.pc t with
    | .raised call oldIrql =>
      if s.owner = none then some { s.setPc t (.locked call oldIrql) with owner := some t }
      else none
    | _ => none
  | .read t =>
    match s.pc t with
    | .locked call oldIrql => some (s.setPc t (.read call s.event.signaled oldIrql))
    | _ => none
  | .write t =>
    match s.pc t with
    | .read call seen oldIrql =>
      let (signaled, after) := criticalSection s.event seen call
      some { s.setPc t (.written after oldIrql) with
        event := { s.event with signaled := signaled }
        decided := after.outcome.toList.map (t, ·) ++ s.decided }
    | _ => none
  | .unlock t =>
    match s.pc t with
    | .written after oldIrql => some { s.setPc t (.unlocked after oldIrql) with owner := none }
    | _ => none
  | .lower t =>
    match s.pc t with
    | .unlocked after oldIrql =>
      some ({ s with irql := Function.update s.irql t oldIrql }.resume t after)
    | _ => none
  | .wakeByAddressAll t =>
    match s.pc t with
    | .waking previous =>
      some (s.wakeSleepers.returnWith t (.previousState previous))
    | _ => none
  | .waitOnAddress t =>
    match s.pc t with
    | .comparing oldState =>
      some (s.setPc t (if s.event.signaled = oldState then .asleep else .woken))
    | _ => none
  | .wakeUp t => if s.pc t = .asleep then some (s.setPc t .woken) else none
  | .timeOut t => if s.pc t = .asleep then some (s.returnWith t .statusTimeout) else none
  | .queryTime t expired =>
    if s.pc t = .woken then
      if expired then some (s.returnWith t .statusTimeout)
      else some (s.raise t .keWaitForSingleObject)
    else none

/-! ## What is counted -/

/-- The calls with this result, counted from their critical section on. -/
def State.total (s : State) (outcome : Outcome) : Nat :=
  (s.returned.map Returned.outcome).count outcome + (s.decided.map Prod.snd).count outcome

/-- The call a thread is in. -/
def Pc.isWait : Pc → Bool
  | .raised call _ | .locked call _ | .read call _ _ => call == .keWaitForSingleObject
  | .written after _ | .unlocked after _ =>
    match after with
    | .returnWith outcome => outcome == .statusSuccess
    | .waitOnAddress _ => true
    | .wakeByAddressAll _ => false
  | .comparing _ | .asleep | .woken => true
  | .idle | .waking _ => false

/-- A `KeSetEvent` that has stored TRUE and has not executed `WakeByAddressAll`. -/
def Pc.isSetter : Pc → Bool
  | .written (.wakeByAddressAll _) _ | .unlocked (.wakeByAddressAll _) _ | .waking _ => true
  | _ => false

/-- A `KeSetEvent` that has also released the spin lock. -/
def Pc.hasReleased : Pc → Bool
  | .unlocked (.wakeByAddressAll _) _ | .waking _ => true
  | _ => false

end Usersim.Event
