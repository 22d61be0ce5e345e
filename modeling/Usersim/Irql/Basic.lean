import Mathlib.Logic.Function.Basic
import Usersim.Basic
import Usersim.Lib.Run

/-!
# Emulated IRQLs (`ke.cpp`)

A thread raises its IRQL to `DISPATCH_LEVEL` by pinning itself to the processor it runs on and
locking that processor's element of `_usersim_dispatch_locks`. The level, the cached affinity and
the saved one are thread-local; only the dispatch locks and the spin locks are shared. Every
action below is one step of one thread up to and including an operation on something shared, so a
run is an interleaving of threads and DPC workers.

The operating system is outside: a thread runs on some processor of its affinity (the `processor`
of an action), and `OsReply` says how the system calls of the step ended.
-/

namespace Usersim.Irql

open Lib

/-- `PROCESSOR_NUMBER`. -/
structure Processor where
  group : Nat
  number : Fin 64
deriving DecidableEq, Repr

/-- `GROUP_AFFINITY`; the reserved words count in the `memcmp` of two affinities. -/
structure GroupAffinity where
  mask : BitVec 64
  group : Nat
  reserved : Nat
deriving DecidableEq, Repr

def GroupAffinity.contains (a : GroupAffinity) (p : Processor) : Bool :=
  p.group == a.group && a.mask.getLsbD p.number

/-- The affinity a raise pins its thread with. -/
def GroupAffinity.single (p : Processor) : GroupAffinity where
  mask := 1#64 <<< p.number.val
  group := p.group
  reserved := 0

/-- `KeGetProcessorIndexFromNumber`. -/
def keGetProcessorIndexFromNumber (groupToIndexMap : Nat → Nat) (p : Processor) : Nat :=
  groupToIndexMap p.group + p.number

/-- How the system calls of one step ended. -/
structure OsReply where
  setThreadGroupAffinity : Bool
  setThreadPriority : Bool
  /-- The mask of `GetProcessAffinityMask`, if the call succeeded. -/
  processMask : Option (BitVec 64)
deriving DecidableEq, Repr

/-- What a thread does between two of its calls, or where it is inside one. -/
inductive Pc where
  /-- A DPC worker between two routines. -/
  | looping
  /-- Between two calls; a DPC worker is inside a routine. -/
  | idle
  /-- In `KfRaiseIrql`, pinned to the processor and about to lock its element; the spin lock is
  the one that is acquired after the raise, if any. -/
  | raising (processor : Processor) (spin : Option Nat)
  /-- In `KeAcquireSpinLock`, after the raise. -/
  | acquiring (spin : Nat)
  /-- In `KeReleaseSpinLock`, before the lower. -/
  | releasing
  /-- In `KeLowerIrql`, after the unlock. -/
  | lowering (new : Nat)
  /-- An `ASSERT` has failed. -/
  | bugCheck
deriving DecidableEq, Repr

/-- The thread-local state, with the affinity and the priority the system holds for the thread. -/
structure ThreadLocals where
  currentIrql : Nat
  groupAffinityCache : GroupAffinity
  groupBeforeRaiseIrql : GroupAffinity
  threadPriorityCache : Int
  threadPriorityBeforeRaiseIrql : Int
  osAffinity : Processor → Bool
  osPriority : Int
  /-- The levels returned by the raises that are not lowered yet, newest first. -/
  saved : List Nat
  pc : Pc
  /-- Not part of the code: the processor of the raise that is in force. -/
  raisedOn : Option Processor

inductive Party where
  | thread (t : Nat)
  | worker (i : Nat)
deriving DecidableEq, Repr

structure State where
  locals : Party → ThreadLocals
  /-- The owner of every element of `_usersim_dispatch_locks`. -/
  dispatchLocks : Nat → Option Party
  spinLocks : Nat → Option Party

/-- Zero-initialized thread-locals; the affinity a thread starts with is the system's choice. -/
def ThreadLocals.init (osAffinity : Processor → Bool) (pc : Pc) : ThreadLocals where
  currentIrql := passiveLevel
  groupAffinityCache := { mask := 0, group := 0, reserved := 0 }
  groupBeforeRaiseIrql := { mask := 0, group := 0, reserved := 0 }
  threadPriorityCache := 0
  threadPriorityBeforeRaiseIrql := 0
  osAffinity := osAffinity
  osPriority := 0
  saved := []
  pc := pc
  raisedOn := none

def State.init (osAffinity : Party → Processor → Bool) : State where
  locals := fun x =>
    match x with
    | .thread _ => .init (osAffinity x) .idle
    | .worker _ => .init (osAffinity x) .looping
  dispatchLocks := fun _ => none
  spinLocks := fun _ => none

/-! ## Thread-local functions -/

/-- `usersim_set_current_thread_priority`, with the old priority if it succeeds. -/
def usersimSetCurrentThreadPriority (l : ThreadLocals) (priority : Int) (r : OsReply) :
    Option (ThreadLocals × Int) :=
  if l.threadPriorityCache = priority then some (l, l.threadPriorityCache)
  else if r.setThreadPriority then
    some ({ l with osPriority := priority, threadPriorityCache := priority },
      l.threadPriorityCache)
  else none

/-- `usersim_set_current_thread_affinity`, with the old affinity if it succeeds. -/
def usersimSetCurrentThreadAffinity (l : ThreadLocals) (new : GroupAffinity) (r : OsReply) :
    Option (ThreadLocals × GroupAffinity) :=
  if new = l.groupAffinityCache then some (l, l.groupAffinityCache)
  else if new.mask = 0 then
    -- the result of this `SetThreadGroupAffinity` is not looked at
    let os := match r.processMask with
      | some m =>
        if m ≠ 0 ∧ r.setThreadGroupAffinity then
          GroupAffinity.contains { mask := m, group := 0, reserved := 0 }
        else l.osAffinity
      | none => l.osAffinity
    some ({ l with osAffinity := os, groupAffinityCache := new }, l.groupAffinityCache)
  else if r.setThreadGroupAffinity then
    some ({ l with osAffinity := new.contains, groupAffinityCache := new }, l.groupAffinityCache)
  else none

/-- `_irql_thread_priority`; the `ASSERT` on the index fails for other levels. -/
def irqlThreadPriority (irql : Nat) : Option Int := ([0, 1, 15] : List Int)[irql]?

/-- `_set_current_thread_priority_by_irql`; `none` when it fails or an `ASSERT` does. -/
def setCurrentThreadPriorityByIrql (l : ThreadLocals) (new : Nat) (r : OsReply) :
    Option ThreadLocals :=
  if l.currentIrql = new then some l
  else if dispatchLevel ≤ new then
    (irqlThreadPriority new).bind fun priority =>
      (usersimSetCurrentThreadPriority l priority r).map fun res =>
        { res.1 with threadPriorityBeforeRaiseIrql := res.2 }
  else (usersimSetCurrentThreadPriority l l.threadPriorityBeforeRaiseIrql r).map Prod.fst

/-- What a thread does once its raise is complete. -/
def Pc.afterRaise : Option Nat → Pc
  | none => .idle
  | some spin => .acquiring spin

/-- `KfRaiseIrql` up to the dispatch lock. -/
def kfRaiseIrql (l : ThreadLocals) (new : Nat) (processor : Processor) (spin : Option Nat)
    (r : OsReply) : ThreadLocals :=
  let old := l.currentIrql
  let raised := { l with currentIrql := new, saved := old :: l.saved }
  match setCurrentThreadPriorityByIrql raised new r with
  | none => { raised with pc := .bugCheck }
  | some l =>
    if dispatchLevel ≤ new ∧ old < dispatchLevel then
      match usersimSetCurrentThreadAffinity l (.single processor) r with
      | none => { l with pc := .bugCheck }
      | some (l, oldAffinity) =>
        { l with groupBeforeRaiseIrql := oldAffinity, pc := .raising processor spin }
    else { l with pc := .afterRaise spin }

/-- The end of `KeLowerIrql`. -/
def setLoweredIrql (l : ThreadLocals) (new : Nat) (r : OsReply) : ThreadLocals :=
  let lowered := { l with currentIrql := new, saved := l.saved.tail }
  match setCurrentThreadPriorityByIrql lowered new r with
  | none => { lowered with pc := .bugCheck }
  | some l => { l with pc := .idle }

/-- `KeLowerIrql` after the unlock. -/
def finishLowerIrql (l : ThreadLocals) (new : Nat) (r : OsReply) : ThreadLocals :=
  match usersimSetCurrentThreadAffinity l l.groupBeforeRaiseIrql r with
  | none => { l with pc := .bugCheck }
  | some (l, _) => setLoweredIrql l new r

def keSetSystemAffinityThreadEx (l : ThreadLocals) (affinity : BitVec 64) (r : OsReply) :
    ThreadLocals × BitVec 64 :=
  let new : GroupAffinity :=
    { mask := affinity, group := l.groupAffinityCache.group, reserved := 0 }
  if dispatchLevel ≤ l.currentIrql then
    ({ l with groupAffinityCache := new, groupBeforeRaiseIrql := new }, 0)
  else
    match usersimSetCurrentThreadAffinity l new r with
    | some (l, old) => (l, old.mask)
    | none => (l, 0)

def keRevertToUserAffinityThreadEx (l : ThreadLocals) (affinity : BitVec 64) (r : OsReply) :
    ThreadLocals :=
  (keSetSystemAffinityThreadEx l affinity r).1

/-- `KeSetSystemGroupAffinityThread`, with the previous affinity if it was set; a failure is only
asserted in debug builds. -/
def keSetSystemGroupAffinityThread (l : ThreadLocals) (affinity : GroupAffinity) (r : OsReply) :
    ThreadLocals × Option GroupAffinity :=
  match usersimSetCurrentThreadAffinity l affinity r with
  | some (l, old) => (l, some old)
  | none => (l, none)

def keRevertToUserGroupAffinityThread (l : ThreadLocals) (previous : GroupAffinity)
    (r : OsReply) : ThreadLocals :=
  (keSetSystemGroupAffinityThread l previous r).1

/-! ## Runs -/

inductive Action where
  | kfRaiseIrql (x : Party) (new : Nat) (processor : Processor) (r : OsReply)
  | keAcquireSpinLock (x : Party) (spin : Nat) (processor : Processor) (r : OsReply)
  /-- The raise gets its dispatch lock. -/
  | dispatchLock (x : Party)
  /-- `AcquireSRWLockExclusive` returns. -/
  | spinLock (x : Party)
  | keReleaseSpinLock (x : Party) (spin : Nat)
  /-- `KeLowerIrql`, up to the unlock if it goes below `DISPATCH_LEVEL`. -/
  | keLowerIrql (x : Party) (new : Nat) (processor : Processor) (r : OsReply)
  | finishLowerIrql (x : Party) (r : OsReply)
  | keSetSystemAffinityThreadEx (x : Party) (affinity : BitVec 64) (r : OsReply)
  | keRevertToUserAffinityThreadEx (x : Party) (affinity : BitVec 64) (r : OsReply)
  | keSetSystemGroupAffinityThread (x : Party) (affinity : GroupAffinity) (r : OsReply)
  | keRevertToUserGroupAffinityThread (x : Party) (previous : GroupAffinity) (r : OsReply)
  /-- A DPC worker sets its priority and pins itself. -/
  | workerStart (i : Nat) (r : OsReply)
  /-- It locks its element, sets its level and calls a routine. -/
  | workerCall (i : Nat)
  /-- The routine has returned: it unlocks its element and resets its level. -/
  | workerReturn (i : Nat)

/-- The mask a worker pins itself with; the processor takes the count of a shift modulo 64. -/
def workerMask (i : Nat) : BitVec 64 := 1#64 <<< (i % 64)

def State.setLocals (s : State) (x : Party) (l : ThreadLocals) : State :=
  { s with locals := Function.update s.locals x l }

variable (index : Processor → Nat)

def step (s : State) : Action → Option State
  | .kfRaiseIrql x new processor r =>
    let l := s.locals x
    if l.pc = .idle ∧ (dispatchLevel ≤ new ∧ l.currentIrql < dispatchLevel →
        l.osAffinity processor = true) then
      some (s.setLocals x (kfRaiseIrql l new processor none r))
    else none
  | .keAcquireSpinLock x spin processor r =>
    let l := s.locals x
    if l.pc = .idle ∧ (l.currentIrql < dispatchLevel → l.osAffinity processor = true) then
      some (s.setLocals x (kfRaiseIrql l dispatchLevel processor (some spin) r))
    else none
  | .dispatchLock x =>
    let l := s.locals x
    match l.pc with
    | .raising processor spin =>
      if s.dispatchLocks (index processor) = none then
        some { (s.setLocals x { l with pc := .afterRaise spin, raisedOn := some processor }) with
          dispatchLocks := Function.update s.dispatchLocks (index processor) (some x) }
      else none
    | _ => none
  | .spinLock x =>
    let l := s.locals x
    match l.pc with
    | .acquiring spin =>
      if s.spinLocks spin = none then
        some { (s.setLocals x { l with pc := .idle }) with
          spinLocks := Function.update s.spinLocks spin (some x) }
      else none
    | _ => none
  | .keReleaseSpinLock x spin =>
    let l := s.locals x
    if l.pc = .idle ∧ s.spinLocks spin = some x then
      some { (s.setLocals x { l with pc := .releasing }) with
        spinLocks := Function.update s.spinLocks spin none }
    else none
  | .keLowerIrql x new processor r =>
    let l := s.locals x
    if l.pc = .idle ∨ l.pc = .releasing then
      if dispatchLevel ≤ l.currentIrql ∧ new < dispatchLevel then
        if l.osAffinity processor = true then
          some { (s.setLocals x { l with pc := .lowering new, raisedOn := none }) with
            dispatchLocks := Function.update s.dispatchLocks (index processor) none }
        else none
      else some (s.setLocals x (setLoweredIrql l new r))
    else none
  | .finishLowerIrql x r =>
    let l := s.locals x
    match l.pc with
    | .lowering new => some (s.setLocals x (finishLowerIrql l new r))
    | _ => none
  | .keSetSystemAffinityThreadEx x affinity r =>
    let l := s.locals x
    if l.pc = .idle then some (s.setLocals x (keSetSystemAffinityThreadEx l affinity r).1)
    else none
  | .keRevertToUserAffinityThreadEx x affinity r =>
    let l := s.locals x
    if l.pc = .idle then some (s.setLocals x (keRevertToUserAffinityThreadEx l affinity r))
    else none
  | .keSetSystemGroupAffinityThread x affinity r =>
    let l := s.locals x
    if l.pc = .idle then some (s.setLocals x (keSetSystemGroupAffinityThread l affinity r).1)
    else none
  | .keRevertToUserGroupAffinityThread x previous r =>
    let l := s.locals x
    if l.pc = .idle then some (s.setLocals x (keRevertToUserGroupAffinityThread l previous r))
    else none
  | .workerStart i r =>
    let l := s.locals (.worker i)
    if l.pc = .looping then
      -- the result of both calls is not looked at
      let l := (setCurrentThreadPriorityByIrql l dispatchLevel r).getD l
      some (s.setLocals (.worker i) (keSetSystemAffinityThreadEx l (workerMask i) r).1)
    else none
  | .workerCall i =>
    let l := s.locals (.worker i)
    if l.pc = .looping ∧ s.dispatchLocks i = none then
      some { (s.setLocals (.worker i) { l with pc := .idle, currentIrql := dispatchLevel }) with
        dispatchLocks := Function.update s.dispatchLocks i (some (.worker i)) }
    else none
  | .workerReturn i =>
    let l := s.locals (.worker i)
    if l.pc = .idle then
      some { (s.setLocals (.worker i) { l with pc := .looping, currentIrql := passiveLevel }) with
        dispatchLocks := Function.update s.dispatchLocks i none }
    else none

/-- What the callers promise: levels are raised upwards and lowered to what the matching raise
returned, the group affinity is changed below `DISPATCH_LEVEL` only, and a routine returns with
all its raises undone. -/
def Admissible (s : State) : Action → Prop
  | .kfRaiseIrql x new _ _ => (s.locals x).currentIrql ≤ new
  | .keAcquireSpinLock x _ _ _ => (s.locals x).currentIrql ≤ dispatchLevel
  | .keLowerIrql x new _ _ => (s.locals x).saved.head? = some new
  | .keSetSystemGroupAffinityThread x _ _ => (s.locals x).currentIrql < dispatchLevel
  | .keRevertToUserGroupAffinityThread x _ _ => (s.locals x).currentIrql < dispatchLevel
  | .workerReturn i => (s.locals (.worker i)).saved = []
  | _ => True

instance (s : State) (a : Action) : Decidable (Admissible s a) :=
  match a with
  | .kfRaiseIrql .. | .keAcquireSpinLock .. | .keSetSystemGroupAffinityThread ..
  | .keRevertToUserGroupAffinityThread .. => Nat.decLe _ _
  | .keLowerIrql .. => inferInstanceAs (Decidable (_ = _))
  | .workerReturn _ => inferInstanceAs (Decidable (_ = _))
  | .dispatchLock _ | .spinLock _ | .keReleaseSpinLock .. | .finishLowerIrql ..
  | .keSetSystemAffinityThreadEx .. | .keRevertToUserAffinityThreadEx .. | .workerStart ..
  | .workerCall _ => isTrue trivial

end Usersim.Irql
