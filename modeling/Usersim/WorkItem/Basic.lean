import Usersim.Basic
import Usersim.Rundown.Basic

/-!
# Preemptible work items (`workitem_winuser.cpp`)

`cxplat_queue_preemptible_work_item` takes a rundown reference and submits the item's work object
to the thread pool; the callback runs the item's routine and gives the reference back. Whoever
waits for the items sets the rundown flag and sleeps until the count is zero.

The thread pool is outside: it runs the callback of every `SubmitThreadpoolWork` once, at any time
and in any order, on any number of threads. A routine may allocate, queue and free items like any
thread. Calls are numbered; `runs`, `completions` and `submissions` record what happened to them.
-/

namespace Usersim.WorkItem

open Lib Usersim.Rundown

/-- `cxplat_preemptible_work_item_t`; the work object is known by the item it was created with. -/
structure Item where
  workItemRoutine : Nat
  workItemContext : Nat
deriving DecidableEq, Repr

inductive Party where
  | thread (t : Nat)
  /-- The routine that runs for a queue call. -/
  | callback (call : Nat)
deriving DecidableEq, Repr

inductive Stage where
  /-- The assertion has failed. -/
  | rejected
  /-- About to submit the work object. -/
  | acquired
  | submitted
  | running
  /-- The routine has returned, the reference is still held. -/
  | routineDone
  | finished
deriving DecidableEq, Repr

/-- A call of `cxplat_queue_preemptible_work_item`. -/
structure QueueCall where
  item : Address
  /-- What the item held when the call was made. -/
  contents : Item
  /-- The result of the acquire. -/
  accepted : Bool
  /-- The call was made after the wait has set the rundown flag. -/
  afterWait : Bool
  stage : Stage
deriving DecidableEq, Repr

inductive Wait where
  | notStarted
  | sleeping
  | returned
deriving DecidableEq, Repr

structure State where
  table : Table
  items : Address → Option Item
  calls : Nat → Option QueueCall
  nextCall : Nat
  /-- The queue call a party is in, between the acquire and the submit. -/
  inCall : Party → Option Nat
  wait : Wait
  /-- The process has ended: a failed `assert`, or an exception that left a callback. -/
  terminated : Bool
  submissions : List Nat
  /-- The routines that were started, with what was read from the item. -/
  runs : List (Nat × Option Item)
  completions : List Nat

/-- `cxplat_winuser_initialize_thread_pool` initializes the reference. -/
def State.init (r : Ref) : State where
  table := initializeRundownRef (fun _ => none) r
  items := fun _ => none
  calls := fun _ => none
  nextCall := 0
  inCall := fun _ => none
  wait := .notStarted
  terminated := false
  submissions := []
  runs := []
  completions := []

inductive Action where
  | allocate (p : Party) (item : Address) (contents : Item)
  | free (p : Party) (item : Address)
  /-- The acquire with which a queue call starts. -/
  | queue (p : Party) (item : Address)
  | submit (p : Party)
  /-- The pool runs the callback of a call, which reads the item and calls the routine. -/
  | start (call : Nat)
  | routineReturns (call : Nat)
  /-- The release with which the callback ends. -/
  | release (call : Nat)
  | wait
  | wakeUp
deriving DecidableEq, Repr

/-- A party makes calls of its own: a routine does while it runs. -/
def State.canAct (s : State) (p : Party) : Bool :=
  s.inCall p == none &&
    match p with
    | .thread _ => true
    | .callback q => (s.calls q).any fun call => call.stage == .running

def State.setStage (s : State) (q : Nat) (call : QueueCall) (stage : Stage) : State :=
  { s with calls := Function.update s.calls q (some { call with stage := stage }) }

/-- `cxplat_queue_preemptible_work_item` with the result of the acquire. -/
def State.queue (s : State) (build : Build) (p : Party) (item : Address) (contents : Item)
    (accepted : Bool) (table : Table) : State :=
  let call : QueueCall :=
    { item := item, contents := contents, accepted := accepted
      afterWait := s.wait != .notStarted, stage := .acquired }
  if !accepted && build == .debug then
    { s.setStage s.nextCall call .rejected with
      table := table, nextCall := s.nextCall + 1, terminated := true }
  else
    { s.setStage s.nextCall call .acquired with
      table := table, nextCall := s.nextCall + 1
      inCall := Function.update s.inCall p (some s.nextCall) }

def step (build : Build) (r : Ref) (s : State) (a : Action) : Option State :=
  if s.terminated then none
  else
    match a with
    | .allocate p item contents =>
      if s.canAct p ∧ s.items item = none then
        some { s with items := Function.update s.items item (some contents) }
      else none
    | .free p item =>
      if s.canAct p ∧ s.items item ≠ none then
        some { s with items := Function.update s.items item none }
      else none
    | .queue p item =>
      match s.items item, acquireRundownRef s.table r with
      | some contents, .ok (accepted, table) =>
        if s.canAct p then some (s.queue build p item contents accepted table) else none
      | _, _ => none
    | .submit p =>
      match s.inCall p with
      | none => none
      | some q =>
        (s.calls q).map fun call =>
          { s.setStage q call .submitted with
            inCall := Function.update s.inCall p none, submissions := q :: s.submissions }
    | .start q =>
      match s.calls q with
      | none => none
      | some call =>
        if call.stage = .submitted then
          some { s.setStage q call .running with runs := (q, s.items call.item) :: s.runs }
        else none
    | .routineReturns q =>
      match s.calls q with
      | none => none
      | some call =>
        if call.stage = .running ∧ s.inCall (.callback q) = none then
          some { s.setStage q call .routineDone with completions := q :: s.completions }
        else none
    | .release q =>
      match s.calls q with
      | none => none
      | some call =>
        if call.stage = .routineDone then
          match releaseRundownRef s.table r with
          | .error _ => some { s with terminated := true }
          | .ok table => some { s.setStage q call .finished with table := table }
        else none
    | .wait =>
      if s.wait = .notStarted then
        match waitForRundownRef s.table r with
        | .error _ => none
        | .ok (done, table) =>
          some { s with table := table, wait := if done then .returned else .sleeping }
      else none
    | .wakeUp =>
      if s.wait = .sleeping ∧ waitPredicate s.table r = true then
        some { s with wait := .returned }
      else none

/-! ## What the callers promise, and when the code keeps its own -/

/-- An accepted call holds a reference until its callback has ended. -/
def QueueCall.holdsReference (call : QueueCall) : Bool := call.accepted && call.stage != .finished

def State.holds (s : State) (q : Nat) : Bool := (s.calls q).any QueueCall.holdsReference

def State.outstanding (s : State) : Nat := (List.range s.nextCall).countP s.holds

/-- A call whose callback has not yet read the item. -/
def QueueCall.needsItem (call : QueueCall) : Bool :=
  call.stage == .acquired || call.stage == .submitted

/-- An item is freed only when every callback that was submitted for it has read it, and fewer than
`2 ^ 64` calls are outstanding. -/
def Admissible (s : State) : Action → Prop
  | .free _ item => ∀ q < s.nextCall, (s.calls q).any (fun call =>
      call.item == item && call.needsItem) = false
  | .queue _ _ => s.outstanding + 1 < 2 ^ 64
  | _ => True

instance (s : State) (a : Action) : Decidable (Admissible s a) :=
  match a with
  | .free .. => Nat.decidableBallLT _ _
  | .queue .. => Nat.decLt _ _
  | .allocate .. | .submit _ | .start _ | .routineReturns _ | .release _ | .wait | .wakeUp =>
    isTrue trivial

/-- In a release build nothing is queued once the wait has set the flag. -/
def QueuedInTime (build : Build) (s : State) : Action → Prop
  | .queue _ _ => build = .debug ∨ s.wait = .notStarted
  | _ => True

instance (build : Build) (s : State) (a : Action) : Decidable (QueuedInTime build s a) :=
  match a with
  | .queue .. => inferInstanceAs (Decidable (_ ∨ _))
  | .allocate .. | .free .. | .submit _ | .start _ | .routineReturns _ | .release _ | .wait
  | .wakeUp => isTrue trivial

end Usersim.WorkItem
