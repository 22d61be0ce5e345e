import Mathlib.Algebra.Group.Nat.Defs
import Mathlib.Data.List.Count
import Usersim.Lib.Run

/-!
# Bringing the platform up and down (`platform_user.cpp`, `ke.cpp`)

`usersim_platform_initiate` and `usersim_platform_terminate` with the parts of
`usersim_initialize_irql`, `usersim_initialize_dpcs` and `cxplat_initialize` they call. Every
operating system call and allocation of a first-time initialization may fail; which ones do is
the argument `Failures`. The calls that tear down (`SetPriorityClass` back to the original class,
joining the workers) are taken to succeed.

`usersim_initialize_se` and `usersim_initialize_wdf` cannot fail and no teardown undoes them, so
they are left out. So is the content of the group-to-index map; only its allocation appears.
-/

namespace Usersim.Platform

/-- `GetMaximumProcessorCount(ALL_PROCESSOR_GROUPS)`, which is never zero. -/
structure Topology where
  processors : Nat
  pos : 0 < processors

inductive Resource where
  | cxplat
  /-- The IRQL thread pool and the dispatch locks. -/
  | irql
  /-- The DPC workers. -/
  | dpcs
deriving DecidableEq, Repr

inductive ResourceEvent where
  | setUp (r : Resource)
  | tearDown (r : Resource)
deriving DecidableEq, Repr

/-- The static variables of `platform_user.cpp`, `ke.cpp` and `cxplat_winuser.cpp`. -/
structure Globals where
  /-- `_usersim_platform_initiate_count`, an `int32_t`. -/
  initiateCount : Int
  /-- `_cxplat_initialized`. -/
  cxplatInitialized : Bool
  /-- `_cxplat_initialization_count`. -/
  cxplatCount : Nat
  /-- `_usersim_threadpool != nullptr`. -/
  threadpool : Bool
  /-- `_usersim_threadpool_callback_environment.has_value()`. -/
  callbackEnvironment : Bool
  /-- `_usersim_original_priority_class != 0`. -/
  originalPriorityClass : Bool
  /-- `_usersim_dispatch_locks.size()`. -/
  dispatchLocks : Nat
  /-- `_usersim_emulated_dpcs.size()`: each element owns one worker thread. -/
  emulatedDpcs : Nat
  /-- Set-ups and teardowns so far, newest first. Not part of the code's state. -/
  log : List ResourceEvent

def Globals.init : Globals where
  initiateCount := 0
  cxplatInitialized := false
  cxplatCount := 0
  threadpool := false
  callbackEnvironment := false
  originalPriorityClass := false
  dispatchLocks := 0
  emulatedDpcs := 0
  log := []

def Globals.record (p : Globals) (e : ResourceEvent) : Globals := { p with log := e :: p.log }

/-- What can go wrong when a DPC worker is created: an allocation, or `std::thread` itself. -/
inductive WorkerFailure where
  | badAlloc
  | systemError
deriving DecidableEq, Repr

/-- Which steps of a first-time initialization fail, if they are reached. -/
structure Failures where
  cxplat : Bool := false
  createThreadpool : Bool := false
  threadMinimum : Bool := false
  getPriorityClass : Bool := false
  setPriorityClass : Bool := false
  /-- `std::bad_alloc` from the vector of dispatch locks. -/
  dispatchLocks : Bool := false
  /-- Creating the worker of this processor fails. -/
  worker : Option (Nat × WorkerFailure) := none
  /-- `std::bad_alloc` from the group-to-index map. -/
  groupMap : Bool := false
deriving DecidableEq, Repr

/-- How an initialization function ends. -/
inductive Outcome where
  | success
  /-- It returns a failure status. -/
  | failure
  /-- It throws `std::bad_alloc`. -/
  | badAlloc
  /-- It throws `std::system_error`. -/
  | systemError
deriving DecidableEq, Repr

/-- The value of an `int32_t` counter after an interlocked operation. -/
def wrap32 (x : Int) : Int := x.bmod (2 ^ 32)

/-! ## cxplat -/

def cxplatInitialize (fail : Bool) (p : Globals) : Option Globals :=
  if fail then none
  else if 0 < p.cxplatCount then some { p with cxplatCount := p.cxplatCount + 1 }
  else some ({ p with cxplatCount := p.cxplatCount + 1 }.record (.setUp .cxplat))

def cxplatCleanup (p : Globals) : Globals :=
  let p := { p with cxplatCount := p.cxplatCount - 1 }
  if 0 < p.cxplatCount then p else p.record (.tearDown .cxplat)

/-! ## IRQL support -/

/-- The common tail of `usersim_initialize_irql`'s failure path and `usersim_clean_up_irql`. -/
def closeThreadpool (p : Globals) : Globals :=
  let p := { p with callbackEnvironment := false }
  if p.threadpool then { p with threadpool := false }.record (.tearDown .irql) else p

def usersimInitializeIrql (n : Topology) (f : Failures) (p : Globals) : Globals × Outcome :=
  if f.createThreadpool then (closeThreadpool { p with threadpool := false }, .failure)
  else
    let p := { p with threadpool := true }.record (.setUp .irql)
    if f.threadMinimum then (closeThreadpool p, .failure)
    else
      let p := { p with callbackEnvironment := true }
      if f.getPriorityClass then
        (closeThreadpool { p with originalPriorityClass := false }, .failure)
      else
        let p := { p with originalPriorityClass := true }
        if f.setPriorityClass then (closeThreadpool p, .failure)
        else if f.dispatchLocks then (p, .badAlloc)
        else ({ p with dispatchLocks := n.processors }, .success)

/-- The vector of dispatch locks is not among the things this resets. -/
def usersimCleanUpIrql (p : Globals) : Globals :=
  closeThreadpool { p with originalPriorityClass := false }

/-! ## DPC workers -/

/-- One `push_back` per processor; a failure leaves the workers created before it. -/
def usersimInitializeDpcs (n : Topology) (f : Failures) (p : Globals) : Globals × Outcome :=
  let p := p.record (.setUp .dpcs)
  match f.worker with
  | some (i, failure) =>
    if i < n.processors then
      ({ p with emulatedDpcs := p.emulatedDpcs + i },
        match failure with
        | .badAlloc => .badAlloc
        | .systemError => .systemError)
    else ({ p with emulatedDpcs := p.emulatedDpcs + n.processors }, .success)
  | none => ({ p with emulatedDpcs := p.emulatedDpcs + n.processors }, .success)

def usersimCleanUpDpcs (p : Globals) : Globals :=
  if 0 < p.emulatedDpcs then { p with emulatedDpcs := 0 }.record (.tearDown .dpcs) else p

/-! ## The platform -/

/-- The bug check on a negative count comes last, so it finds everything already torn down. -/
def usersimPlatformTerminate (p : Globals) : Globals :=
  let p := usersimCleanUpIrql (usersimCleanUpDpcs p)
  let p := if p.cxplatInitialized then { cxplatCleanup p with cxplatInitialized := false } else p
  { p with initiateCount := wrap32 (p.initiateCount - 1) }

/--
The outcome is the status returned to the caller, or the exception that leaves the function: the
`catch` clause only names `std::bad_alloc`, so a `std::system_error` from `std::thread` passes
through without reaching the clean-up at `Exit`.
-/
def usersimPlatformInitiate (n : Topology) (f : Failures) (p : Globals) : Globals × Outcome :=
  let p := { p with initiateCount := wrap32 (p.initiateCount + 1) }
  if 1 < p.initiateCount then (p, .success)
  else
    match cxplatInitialize f.cxplat p with
    | none => (usersimPlatformTerminate p, .failure)
    | some p =>
      match usersimInitializeIrql n f { p with cxplatInitialized := true } with
      | (p, .success) =>
        match usersimInitializeDpcs n f p with
        | (p, .success) =>
          if f.groupMap then (usersimPlatformTerminate p, .failure) else (p, .success)
        | (p, .systemError) => (p, .systemError)
        | (p, _) => (usersimPlatformTerminate p, .failure)
      | (p, _) => (usersimPlatformTerminate p, .failure)

/-! ## Runs -/

inductive Call where
  | initiate (f : Failures)
  | terminate
deriving DecidableEq, Repr

structure State where
  platform : Globals
  /-- Successful initiates not yet matched by a terminate. -/
  outstanding : Nat

def State.init : State := { platform := Globals.init, outstanding := 0 }

/--
One call. A terminate with nothing outstanding is outside the callers' contract. An initiate
with nothing outstanding opens a new period, so the log starts again there.
-/
def step (n : Topology) (s : State) : Call → Option State
  | .initiate f =>
    let p := if s.outstanding = 0 then { s.platform with log := [] } else s.platform
    match usersimPlatformInitiate n f p with
    | (p, .success) => some { platform := p, outstanding := s.outstanding + 1 }
    | (p, _) => some { platform := p, outstanding := s.outstanding }
  | .terminate =>
    if s.outstanding = 0 then none
    else some { platform := usersimPlatformTerminate s.platform,
                outstanding := s.outstanding - 1 }

end Usersim.Platform
