import Usersim.Basic
import Usersim.Framework.List
import Usersim.Lib.Run

/-!
# Emulated DPCs (`ke.cpp`)

One `_usersim_emulated_dpc` per CPU: an intrusive list guarded by a mutex, and a worker thread that
pops it. Every action below is one critical section of some thread, or one step that a worker
takes between two of its critical sections; a run is any list of actions, so threads and workers
interleave freely.

All list entries of the program live in one heap of links: the queue heads, one flush marker per
queue and the entry of every `KDPC`. Whether a DPC is queued is only recorded there, by its entry
not being linked to itself.

Successful inserts are numbered. The numbers (`ticket`, `nextTicket`) and the log are not part of
the code's state; they say which insert a later removal or execution belongs to.
-/

namespace Usersim.Dpc

open Lib Framework

abbrev Cpu := Nat

/-- The address of a `KDPC`. -/
abbrev DpcId := Nat

/-- The list entries of the program. -/
inductive Cell where
  | head (i : Cpu)
  | flushEntry (i : Cpu)
  | entry (d : DpcId)
deriving DecidableEq, Repr

/-- `KDPC`, without the list entry. -/
structure Kdpc where
  context : Ptr
  cpuId : Cpu
  parameter1 : Ptr
  parameter2 : Ptr
  workItemRoutine : Ptr
deriving DecidableEq, Repr

/-- What a worker copies out of a `KDPC` under the mutex, with the number of the insert. -/
structure WorkItem where
  dpc : DpcId
  context : Ptr
  parameter1 : Ptr
  parameter2 : Ptr
  ticket : Nat
deriving DecidableEq, Repr

inductive Worker where
  /-- In the loop, holding the mutex or waiting on the condition variable. -/
  | ready
  /-- Released the mutex with a work item, about to take the dispatch lock and call its routine. -/
  | dequeued (item : WorkItem)
  | executing (item : WorkItem)
  /-- Left the loop because the queue terminates. -/
  | exited
deriving DecidableEq, Repr

/-- A thread in `KeFlushQueuedDpcs`: the queue it is at, and, once it is inside `flush_queue`,
the number of inserts made before it took the mutex. -/
structure Flush where
  cpu : Cpu
  since : Option Nat
deriving DecidableEq, Repr

inductive Event where
  /-- `KeInsertQueueDpc` returned TRUE. -/
  | inserted (ticket : Nat) (d : DpcId) (cpu : Cpu) (context parameter1 parameter2 : Ptr)
  | insertRefused (d : DpcId)
  /-- `KeRemoveQueueDpc` returned TRUE. -/
  | removed (ticket : Nat)
  | removeRefused (d : DpcId)
  | dequeued (ticket : Nat)
  /-- A worker calls the routine. -/
  | executed (cpu : Cpu) (item : WorkItem) (routine : Ptr)
  /-- The routine has returned. -/
  | finished (ticket : Nat)
  /-- `flush_queue` returned because its marker was processed. -/
  | flushed (cpu : Cpu) (since : Nat)
deriving DecidableEq, Repr

structure State where
  links : Links Cell
  dpcs : DpcId → Kdpc
  workers : Cpu → Worker
  terminate : Cpu → Bool
  /-- The threads in `KeFlushQueuedDpcs`. -/
  flushers : List Tid
  flush : Tid → Flush
  /-- The number of the last successful insert of a DPC. -/
  ticket : DpcId → Nat
  nextTicket : Nat
  /-- What happened so far, newest first. -/
  log : List Event

/-- The queues are built and every DPC has been through `KeInitializeDpc`. -/
def State.init (dpcs : DpcId → Kdpc) : State where
  links := { flink := id, blink := id }
  dpcs := dpcs
  workers := fun _ => .ready
  terminate := fun _ => false
  flushers := []
  flush := fun _ => { cpu := 0, since := none }
  ticket := fun _ => 0
  nextTicket := 0
  log := []

def idleDpc : Kdpc where
  context := 7
  cpuId := 0
  parameter1 := 0
  parameter2 := 0
  workItemRoutine := 9

inductive Action where
  | keInitializeDpc (d : DpcId) (routine context : Ptr)
  | keSetTargetProcessorDpc (d : DpcId) (cpu : Cpu)
  | keInsertQueueDpc (d : DpcId) (argument1 argument2 : Ptr)
  | keRemoveQueueDpc (d : DpcId)
  /-- The worker pops the head of its queue. -/
  | workerPop (i : Cpu)
  /-- The worker calls the routine of the item it popped. -/
  | workerCall (i : Cpu)
  | workerReturn (i : Cpu)
  | workerExit (i : Cpu)
  /-- A thread calls `KeFlushQueuedDpcs`. -/
  | flushStart (t : Tid)
  /-- It takes the mutex of the next queue and inserts the marker. -/
  | flushEnter (t : Tid)
  /-- The predicate it waits for is true, `flush_queue` returns. -/
  | flushLeave (t : Tid)
  /-- All queues are flushed, `KeFlushQueuedDpcs` returns. -/
  | flushEnd (t : Tid)
  /-- The destructor of a queue sets `terminate`. -/
  | terminate (i : Cpu)
deriving DecidableEq, Repr

/-! ## The critical sections -/

def keInitializeDpc (s : State) (d : DpcId) (routine context : Ptr) : State :=
  { s with
    links := usersimListInitialize s.links (.entry d)
    dpcs := Function.update s.dpcs d
      { s.dpcs d with cpuId := 0, workItemRoutine := routine, context := context } }

def keSetTargetProcessorDpc (s : State) (d : DpcId) (cpu : Cpu) : State :=
  { s with dpcs := Function.update s.dpcs d { s.dpcs d with cpuId := cpu } }

/-- `insert` under the mutex of queue `cpu`, whose number it has read off the DPC before. -/
def insert (s : State) (cpu : Cpu) (d : DpcId) (parameter1 parameter2 : Ptr) : State :=
  let k := s.dpcs d
  if !usersimListIsEmpty s.links (.entry d) then { s with log := .insertRefused d :: s.log }
  else
    { s with
      dpcs := Function.update s.dpcs d { k with parameter1 := parameter1, parameter2 := parameter2 }
      links := usersimListInsertTail s.links (.head cpu) (.entry d)
      ticket := Function.update s.ticket d s.nextTicket
      nextTicket := s.nextTicket + 1
      log := .inserted s.nextTicket d cpu k.context parameter1 parameter2 :: s.log }

/-- `remove` under a mutex; which queue it is the mutex of changes nothing here. -/
def remove (s : State) (d : DpcId) : State :=
  if usersimListIsEmpty s.links (.entry d) then { s with log := .removeRefused d :: s.log }
  else
    { s with
      links := (usersimListRemoveEntry s.links (.entry d)).1
      log := .removed (s.ticket d) :: s.log }

/-- One iteration of the worker loop that finds the queue not empty. -/
def workerPop (s : State) (i : Cpu) : Option State :=
  let popped := usersimListRemoveHeadEntry s.links (.head i)
  match popped.2 with
  | .flushEntry j =>
    if j = i then some { s with links := usersimListInitialize popped.1 (.flushEntry i) } else none
  | .entry d =>
    let k := s.dpcs d
    some { s with
      links := usersimListInitialize popped.1 (.entry d)
      workers := Function.update s.workers i
        (.dequeued { dpc := d, context := k.context, parameter1 := k.parameter1,
                     parameter2 := k.parameter2, ticket := s.ticket d })
      log := .dequeued (s.ticket d) :: s.log }
  | .head _ => none

/-- `flush_queue` up to its wait. -/
def flushEnter (s : State) (t : Tid) (i : Cpu) : State :=
  { s with
    links := usersimListInsertTail (usersimListInitialize s.links (.flushEntry i)) (.head i)
      (.flushEntry i)
    flush := Function.update s.flush t { cpu := i, since := some s.nextTicket } }

/-! ## Runs -/

/-- `n` is the number of CPUs; an action on another queue indexes past the vector of queues. An
insert and a removal are one action each, with the read of the CPU that comes before the mutex;
`Retarget.lean` takes the two apart. -/
def step (n : Nat) (s : State) : Action → Option State
  | .keInitializeDpc d routine context => some (keInitializeDpc s d routine context)
  | .keSetTargetProcessorDpc d cpu => some (keSetTargetProcessorDpc s d cpu)
  | .keInsertQueueDpc d a1 a2 =>
    if (s.dpcs d).cpuId < n then some (insert s (s.dpcs d).cpuId d a1 a2) else none
  | .keRemoveQueueDpc d => if (s.dpcs d).cpuId < n then some (remove s d) else none
  | .workerPop i =>
    if i < n ∧ s.workers i = .ready ∧ s.terminate i = false ∧
        usersimListIsEmpty s.links (.head i) = false then
      workerPop s i
    else none
  | .workerCall i =>
    match s.workers i with
    | .dequeued item =>
      some { s with
        workers := Function.update s.workers i (.executing item)
        log := .executed i item (s.dpcs item.dpc).workItemRoutine :: s.log }
    | _ => none
  | .workerReturn i =>
    match s.workers i with
    | .executing item =>
      some { s with
        workers := Function.update s.workers i .ready
        log := .finished item.ticket :: s.log }
    | _ => none
  | .workerExit i =>
    if s.workers i = .ready ∧ s.terminate i = true then
      some { s with workers := Function.update s.workers i .exited }
    else none
  | .flushStart t =>
    if t ∈ s.flushers then none
    else
      some { s with
        flushers := t :: s.flushers
        flush := Function.update s.flush t { cpu := 0, since := none } }
  | .flushEnter t =>
    if t ∈ s.flushers ∧ (s.flush t).since = none ∧ (s.flush t).cpu < n then
      some (flushEnter s t (s.flush t).cpu)
    else none
  | .flushLeave t =>
    match (s.flush t).since with
    | some since =>
      let i := (s.flush t).cpu
      if t ∈ s.flushers ∧ (s.terminate i = true ∨
          usersimListIsEmpty s.links (.flushEntry i) = true) then
        some { s with
          flush := Function.update s.flush t { cpu := i + 1, since := none }
          log := if s.terminate i then s.log else .flushed i since :: s.log }
      else none
    | none => none
  | .flushEnd t =>
    if t ∈ s.flushers ∧ (s.flush t).since = none ∧ (s.flush t).cpu = n then
      some { s with flushers := s.flushers.erase t }
    else none
  | .terminate i => some { s with terminate := Function.update s.terminate i true }

/-- What the callers promise: a DPC is initialized or retargeted only while it is not queued, and
only to a CPU that exists. -/
def Admissible (n : Nat) (s : State) : Action → Prop
  | .keInitializeDpc d _ _ => usersimListIsEmpty s.links (.entry d) = true ∧ 0 < n
  | .keSetTargetProcessorDpc d cpu => usersimListIsEmpty s.links (.entry d) = true ∧ cpu < n
  | _ => True

instance (n : Nat) (s : State) (a : Action) : Decidable (Admissible n s a) :=
  match a with
  | .keInitializeDpc _ _ _ => inferInstanceAs (Decidable (_ ∧ _))
  | .keSetTargetProcessorDpc _ _ => inferInstanceAs (Decidable (_ ∧ _))
  | .keInsertQueueDpc _ _ _ | .keRemoveQueueDpc _ | .workerPop _ | .workerCall _
  | .workerReturn _ | .workerExit _ | .flushStart _ | .flushEnter _ | .flushLeave _
  | .flushEnd _ | .terminate _ => isTrue trivial

/-- No flush finds the marker of an earlier one still in the queue. -/
def MarkerFree (s : State) : Action → Prop
  | .flushEnter t => usersimListIsEmpty s.links (.flushEntry (s.flush t).cpu) = true
  | _ => True

end Usersim.Dpc
