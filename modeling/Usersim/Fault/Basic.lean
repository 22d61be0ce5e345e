import Mathlib.Logic.Function.Basic
import Usersim.Basic
import Usersim.Lib.Run

/-!
# Fault injection (`fault_injection.cpp`)

`inject_fault` captures the stack of its caller, and answers true for a canonical stack it has not
seen before. It looks the stack up and inserts it in one critical section, decodes the symbols
outside of the lock, and writes the log record in a second one. Decoding allocates memory, which
calls `inject_fault` again on the same thread; a thread-local counter turns these calls away.

A call is a frame of its thread. It may throw where memory is allocated; the counter is reset on
the way out and `cxplat_fault_injection_inject_fault` returns false. `checks`, `pending` and
`returned` are not part of the code: they record the look-ups in order, those whose call has not
returned yet, and what the calls returned.
-/

namespace Usersim.Fault

open Lib

/-- A canonical stack: the offsets of the frames in the modules under test. -/
abbrev Stack := List (BitVec 64)

/-- The first critical section of a call: how many there were before, the stack that was looked
up, and whether it was new. -/
structure Check where
  position : Nat
  stack : Stack
  newStack : Bool
deriving DecidableEq, Repr

inductive Phase where
  /-- The guard is constructed. -/
  | entered
  /-- About to capture the stack. -/
  | capturing
  /-- About to enter the first critical section. -/
  | checking (stack : Stack)
  /-- In `log_stack_trace`. -/
  | logging (check : Check)
  /-- About to return, after having looked a stack up or not. -/
  | done (check : Option Check) (result : Bool)
deriving DecidableEq, Repr

/-- Where other code is called that may itself allocate and so inject faults. -/
def Phase.callsOut : Phase → Bool
  | .capturing | .logging _ => true
  | .entered | .checking _ | .done .. => false

/-- A call of `cxplat_fault_injection_inject_fault`. -/
structure Frame where
  depthBefore : Int
  phase : Phase
deriving DecidableEq, Repr

structure Returned where
  check : Option Check
  result : Bool
  depthBefore : Int
  depthAfter : Int
deriving DecidableEq, Repr

structure State where
  /-- `_fault_hash`. -/
  faultHash : List Stack
  /-- The stacks in the log file. -/
  logFile : List Stack
  /-- `_cxplat_fault_injection_recursion`. -/
  recursion : Tid → Int
  /-- The calls a thread is in, the innermost first. -/
  frames : Tid → List Frame
  /-- The newest first. -/
  checks : List Check
  pending : List (Tid × Check)
  returned : List Returned

/-- The log has been loaded. -/
def State.init (loaded : List Stack) : State where
  faultHash := loaded
  logFile := loaded
  recursion := fun _ => 0
  frames := fun _ => []
  checks := []
  pending := []
  returned := []

inductive Action where
  | enter (t : Tid)
  | isRecursing (t : Tid)
  /-- `none` if no frame was captured. -/
  | capture (t : Tid) (canonical : Option Stack)
  | check (t : Tid)
  | log (t : Tid)
  | throws (t : Tid)
  | returns (t : Tid)
  | reset (t : Tid)
deriving DecidableEq, Repr

def State.setFrames (s : State) (t : Tid) (frames : List Frame) : State :=
  { s with frames := Function.update s.frames t frames }

def State.enter (s : State) (t : Tid) : State :=
  { s.setFrames t ({ depthBefore := s.recursion t, phase := .entered } :: s.frames t) with
    recursion := Function.update s.recursion t (s.recursion t + 1) }

/-- The first critical section. -/
def State.check (s : State) (t : Tid) (f : Frame) (rest : List Frame) (stack : Stack) : State :=
  if stack ∈ s.faultHash then
    let c : Check := { position := s.checks.length, stack := stack, newStack := false }
    { s.setFrames t ({ f with phase := .done (some c) false } :: rest) with
      checks := c :: s.checks, pending := (t, c) :: s.pending }
  else
    let c : Check := { position := s.checks.length, stack := stack, newStack := true }
    { s.setFrames t ({ f with phase := .logging c } :: rest) with
      faultHash := stack :: s.faultHash
      checks := c :: s.checks, pending := (t, c) :: s.pending }

/-- The guard is destructed and the call returns. -/
def State.leave (s : State) (t : Tid) (f : Frame) (rest : List Frame) (check : Option Check)
    (result : Bool) : State :=
  { s.setFrames t rest with
    recursion := Function.update s.recursion t (s.recursion t - 1)
    pending := s.pending.filter fun x => !(x.1 == t && some x.2 == check)
    returned := { check := check, result := result, depthBefore := f.depthBefore
                  depthAfter := s.recursion t - 1 } :: s.returned }

/-- A step of the innermost call of a thread. -/
def frameStep (s : State) (f : Frame) (rest : List Frame) : Action → Option State
  | .enter t => if f.phase.callsOut then some (s.enter t) else none
  | .isRecursing t =>
    if f.phase = .entered then
      let phase := if 1 < s.recursion t then .done none false else .capturing
      some (s.setFrames t ({ f with phase := phase } :: rest))
    else none
  | .capture t canonical =>
    if f.phase = .capturing then
      let phase := match canonical with
        | none => .done none false
        | some stack => .checking stack
      some (s.setFrames t ({ f with phase := phase } :: rest))
    else none
  | .check t =>
    match f.phase with
    | .checking stack => some (s.check t f rest stack)
    | _ => none
  | .log t =>
    match f.phase with
    | .logging c =>
      some { s.setFrames t ({ f with phase := .done (some c) true } :: rest) with
        logFile := c.stack :: s.logFile }
    | _ => none
  | .throws t =>
    match f.phase with
    | .capturing | .checking _ => some (s.leave t f rest none false)
    | .logging c => some (s.leave t f rest (some c) false)
    | _ => none
  | .returns t =>
    match f.phase with
    | .done c result => some (s.leave t f rest c result)
    | _ => none
  | .reset _ => none

def Action.thread : Action → Tid
  | .enter t | .isRecursing t | .capture t _ | .check t | .log t | .throws t | .returns t
  | .reset t => t

def step (s : State) (a : Action) : Option State :=
  match s.frames a.thread with
  | f :: rest => frameStep s f rest a
  | [] =>
    match a with
    | .enter t => some (s.enter t)
    | .reset _ => some { s with faultHash := [], logFile := [] }
    | _ => none

end Usersim.Fault
