import Mathlib.Logic.Function.Basic
import Usersim.Event.Basic
import Usersim.Lib.Run

/-!
# Timers (`ke.cpp`)

A KTIMER gets a thread pool timer when it is set and keeps it until it is cancelled. The calls hold
`g_usersim_threadpool_mutex`; a callback holds nothing, but has one write that they see, so each of
them is one step.

The thread pool is outside: a timer that is set elapses at some time, once or again and again, and
every time queues a callback. A callback may still be queued when the timer is set anew. The
allocation of the list of timers succeeds.
-/

namespace Usersim.Timer

open Event (ObjectType)

abbrev TimerId := Nat
abbrev Handle := Nat
abbrev Dpc := Nat

/-- `KTIMER`. -/
structure KTimer where
  objectType : ObjectType
  threadpoolTimer : Option Handle
  dpc : Option Dpc
  signaled : Bool
deriving DecidableEq, Repr

/-- `TP_TIMER`. -/
structure TpTimer where
  context : TimerId
  /-- `none` when it is not set, or has elapsed for the only time. -/
  dueTime : Option (BitVec 64)
  period : BitVec 32
  windowLength : BitVec 32
  /-- How often it was set. -/
  setting : Nat
  /-- The settings that the queued callbacks are of. -/
  queued : List Nat
deriving DecidableEq, Repr

/-- The last time a timer was set. Not part of the code. -/
structure Arming where
  oneShot : Bool
  cancelled : Bool
  /-- A callback of this setting has run. -/
  expired : Bool
  /-- A callback of an earlier one has run since. -/
  late : Bool
deriving DecidableEq, Repr

structure State where
  timers : TimerId → KTimer
  /-- `g_usersim_threadpool_timers`. -/
  threadpoolTimers : List Handle
  /-- The thread pool timers that are not closed. -/
  os : Handle → Option TpTimer
  /-- The DPCs that callbacks have queued. -/
  inserted : List Dpc
  /-- Not part of the code; a timer that was never set counts as cancelled. -/
  latest : TimerId → Arming

def keInitializeTimer : KTimer where
  objectType := .timer
  threadpoolTimer := none
  dpc := none
  signaled := false

def State.init : State where
  timers := fun _ => keInitializeTimer
  threadpoolTimers := []
  os := fun _ => none
  inserted := []
  latest := fun _ => { oneShot := false, cancelled := true, expired := false, late := false }

/-! ## The thread pool -/

def createThreadpoolTimer (context : TimerId) : TpTimer where
  context := context
  dueTime := none
  period := 0
  windowLength := 0
  setting := 0
  queued := []

def setThreadpoolTimer (o : TpTimer) (dueTime : Option (BitVec 64))
    (period windowLength : BitVec 32) : TpTimer :=
  { o with
    dueTime := dueTime
    period := period
    windowLength := windowLength
    setting := o.setting + 1 }

/-- The due time has come. -/
def TpTimer.elapse (o : TpTimer) : TpTimer :=
  { o with
    dueTime := if o.period = 0 then none else o.dueTime
    queued := o.queued ++ [o.setting] }

/-! ## The calls

`none` is an `ASSERT` that fails, or `KeBugCheck`.
-/

/-- The end of `KeSetCoalescableTimer`. -/
def State.start (s : State) (t : TimerId) (tp : Handle) (dueTime : BitVec 64)
    (period tolerableDelay : BitVec 32) (dpc : Option Dpc) : State :=
  { s with
    timers := Function.update s.timers t
      { s.timers t with threadpoolTimer := some tp, signaled := false, dpc := dpc }
    os := Function.update s.os tp
      ((s.os tp).map fun o => setThreadpoolTimer o (some dueTime) period tolerableDelay)
    latest := Function.update s.latest t
      { oneShot := period = 0, cancelled := false, expired := false, late := false } }

/-- `created` is what `CreateThreadpoolTimer` returns. -/
def keSetCoalescableTimer (s : State) (t : TimerId) (dueTime : BitVec 64)
    (period tolerableDelay : BitVec 32) (dpc : Option Dpc) (created : Option Handle) :
    Option (State × Bool) :=
  if dpc ≠ none ∧ (s.timers t).objectType = .timer ∧ dueTime.toInt < 0 then
    match (s.timers t).threadpoolTimer with
    | some tp => some (s.start t tp dueTime period tolerableDelay dpc, true)
    | none =>
      created.map fun tp =>
        let s := { s with
          os := Function.update s.os tp (some (createThreadpoolTimer t))
          threadpoolTimers := s.threadpoolTimers ++ [tp] }
        (s.start t tp dueTime period tolerableDelay dpc, false)
  else none

def keSetTimer (s : State) (t : TimerId) (dueTime : BitVec 64) (dpc : Option Dpc)
    (created : Option Handle) : Option (State × Bool) :=
  keSetCoalescableTimer s t dueTime 0 0 dpc created

def keSetTimerEx (s : State) (t : TimerId) (dueTime : BitVec 64) (period : BitVec 32)
    (dpc : Option Dpc) (created : Option Handle) : Option (State × Bool) :=
  keSetCoalescableTimer s t dueTime period 0 dpc created

/-- The thread pool timer is closed with the callbacks that are queued. -/
def keCancelTimer (s : State) (t : TimerId) : Option (State × Bool) :=
  if (s.timers t).objectType = .timer then
    match (s.timers t).threadpoolTimer with
    | none => some (s, false)
    | some tp =>
      if tp ∈ s.threadpoolTimers then
        some ({ s with
          timers := Function.update s.timers t
            { s.timers t with threadpoolTimer := none, signaled := false }
          threadpoolTimers := s.threadpoolTimers.erase tp
          os := Function.update s.os tp none
          latest := Function.update s.latest t { s.latest t with cancelled := true } },
          !(s.timers t).signaled)
      else none
  else none

def keReadStateTimer (timer : KTimer) : Option Bool :=
  if timer.objectType = .timer then some timer.signaled else none

/-- `_usersim_timer_callback`, with the DPC it queues. -/
def usersimTimerCallback (timer : KTimer) : Option (KTimer × Option Dpc) :=
  if timer.objectType = .timer then some ({ timer with signaled := true }, timer.dpc) else none

/-- A timer is set, on the thread pool timer that it has or on a new one. -/
theorem keSetCoalescableTimer_cases {s s' : State} {t : TimerId} {dueTime : BitVec 64}
    {period tolerableDelay : BitVec 32} {dpc : Option Dpc} {created : Option Handle} {r : Bool}
    (h : keSetCoalescableTimer s t dueTime period tolerableDelay dpc created =
      some (s', r)) :
    (∃ tp, (s.timers t).threadpoolTimer = some tp ∧
        s' = s.start t tp dueTime period tolerableDelay dpc) ∨
      ∃ tp, (s.timers t).threadpoolTimer = none ∧ created = some tp ∧
        s' = State.start { s with
          os := Function.update s.os tp (some (createThreadpoolTimer t))
          threadpoolTimers := s.threadpoolTimers ++ [tp] } t tp dueTime period tolerableDelay
            dpc := by
  unfold keSetCoalescableTimer at h
  split at h
  · cases hhandle : (s.timers t).threadpoolTimer with
    | some tp =>
      rw [hhandle] at h
      cases h
      exact .inl ⟨tp, rfl, rfl⟩
    | none =>
      rw [hhandle] at h
      obtain ⟨tp, rfl, hpair⟩ := Option.map_eq_some_iff.mp h
      cases hpair
      exact .inr ⟨tp, rfl, rfl, rfl⟩
  · cases h

/-! ## Runs -/

inductive Action where
  | keSetTimer (t : TimerId) (dueTime : BitVec 64) (dpc : Option Dpc) (created : Option Handle)
  | keSetTimerEx (t : TimerId) (dueTime : BitVec 64) (period : BitVec 32) (dpc : Option Dpc)
    (created : Option Handle)
  | keSetCoalescableTimer (t : TimerId) (dueTime : BitVec 64) (period tolerableDelay : BitVec 32)
    (dpc : Option Dpc) (created : Option Handle)
  | keCancelTimer (t : TimerId)
  | keReadStateTimer (t : TimerId)
  /-- A due time has come. -/
  | elapse (tp : Handle)
  /-- The callback at this place of the queue runs. -/
  | callback (tp : Handle) (place : Nat)
deriving DecidableEq, Repr

/-- A callback of the setting in force is an expiry, one of an earlier setting is late. -/
def Arming.ran (a : Arming) (inForce : Bool) : Arming :=
  if inForce then { a with expired := true } else { a with late := true }

def step (s : State) : Action → Option State
  | .keSetTimer t dueTime dpc created => (keSetTimer s t dueTime dpc created).map Prod.fst
  | .keSetTimerEx t dueTime period dpc created =>
    (keSetTimerEx s t dueTime period dpc created).map Prod.fst
  | .keSetCoalescableTimer t dueTime period tolerableDelay dpc created =>
    (keSetCoalescableTimer s t dueTime period tolerableDelay dpc created).map Prod.fst
  | .keCancelTimer t => (keCancelTimer s t).map Prod.fst
  | .keReadStateTimer t => (keReadStateTimer (s.timers t)).map fun _ => s
  | .elapse tp =>
    (s.os tp).bind fun o =>
      if o.dueTime ≠ none then
        some { s with os := Function.update s.os tp (some o.elapse) }
      else none
  | .callback tp place =>
    (s.os tp).bind fun o =>
      o.queued[place]?.bind fun setting =>
        (usersimTimerCallback (s.timers o.context)).map fun r =>
          { s with
            timers := Function.update s.timers o.context r.1
            os := Function.update s.os tp (some { o with queued := o.queued.eraseIdx place })
            inserted := s.inserted ++ r.2.toList
            latest := Function.update s.latest o.context
              ((s.latest o.context).ran (setting = o.setting)) }

/-- What the callers promise, and a thread pool timer that is created is a new one. -/
def SetAdmissible (s : State) (t : TimerId) (dueTime : BitVec 64) (dpc : Option Dpc)
    (created : Option Handle) : Prop :=
  dpc ≠ none ∧ dueTime.toInt < 0 ∧
    ((s.timers t).threadpoolTimer = none → ∃ tp, created = some tp ∧ s.os tp = none)

def Admissible (s : State) : Action → Prop
  | .keSetTimer t dueTime dpc created | .keSetTimerEx t dueTime _ dpc created
  | .keSetCoalescableTimer t dueTime _ _ dpc created => SetAdmissible s t dueTime dpc created
  | _ => True

instance (s : State) (t : TimerId) (dueTime : BitVec 64) (dpc : Option Dpc)
    (created : Option Handle) : Decidable (SetAdmissible s t dueTime dpc created) :=
  match created with
  | none => decidable_of_iff (dpc ≠ none ∧ dueTime.toInt < 0 ∧ (s.timers t).threadpoolTimer ≠ none)
      (by simp [SetAdmissible])
  | some tp => decidable_of_iff
      (dpc ≠ none ∧ dueTime.toInt < 0 ∧ ((s.timers t).threadpoolTimer = none → s.os tp = none))
      (by simp [SetAdmissible])

instance (s : State) (a : Action) : Decidable (Admissible s a) :=
  match a with
  | .keSetTimer .. | .keSetTimerEx .. | .keSetCoalescableTimer .. =>
    inferInstanceAs (Decidable (SetAdmissible ..))
  | .keCancelTimer _ | .keReadStateTimer _ | .elapse _ | .callback .. => isTrue trivial

end Usersim.Timer
