import Mathlib.Algebra.Group.Nat.Defs
import Mathlib.Data.List.Count
import Mathlib.Logic.Function.Basic
import Usersim.Basic
import Usersim.Lib.Run

/-!
# The rundown reference table (`rundown_winuser.cpp`)

One table, one mutex and one condition variable serve every rundown reference. Each member
function of `_rundown_ref_table` is one critical section, except `wait_for_rundown_ref`, which
gives the mutex up while it sleeps. So a run is a list of critical sections, each taken by some
thread, and a wait that does not return at once has a second one in which it wakes up.

The state also keeps a log of what every call returned. The code has no such log; it is what
"since the last initialize" and "from the moment a wait starts" are measured on.
-/

namespace Usersim.Rundown

/-- The address of a `cxplat_rundown_reference_t`, the key of the table. -/
abbrev Ref := BitVec 64

/-- `std::tuple<bool, uint64_t>`. -/
structure Entry where
  rundown : Bool
  refCount : Nat
deriving DecidableEq, Repr

/-- `_rundown_ref_counts`. -/
abbrev Table := Ref → Option Entry

/-- The `std::runtime_error`s the table throws. -/
inductive Error where
  | notInitialized
  | notRundown
  | corruption
  | alreadyReleased
deriving DecidableEq, Repr

def Error.what : Error → String
  | .notInitialized => "rundown ref table not initialized"
  | .notRundown => "rundown ref table not rundown"
  | .corruption => "rundown ref table corruption"
  | .alreadyReleased => "rundown ref table already released"

/-! ## The critical sections -/

def initializeRundownRef (table : Table) (r : Ref) : Table :=
  let cleared := if (table r).isSome then Function.update table r none else table
  Function.update cleared r (some { rundown := false, refCount := 0 })

def reinitializeRundownRef (table : Table) (r : Ref) : Except Error Table :=
  match table r with
  | none => .error .notInitialized
  | some e =>
    if !e.rundown then .error .notRundown
    else if e.refCount ≠ 0 then .error .corruption
    else .ok (Function.update table r (some { e with rundown := false }))

/-- `ref_count++` is on a `uint64_t`, so it wraps. -/
def acquireRundownRef (table : Table) (r : Ref) : Except Error (Bool × Table) :=
  match table r with
  | none => .error .notInitialized
  | some e =>
    if e.rundown then .ok (false, table)
    else .ok (true, Function.update table r (some { e with refCount := (e.refCount + 1) % 2 ^ 64 }))

def releaseRundownRef (table : Table) (r : Ref) : Except Error Table :=
  match table r with
  | none => .error .notInitialized
  | some e =>
    if e.refCount = 0 then .error .alreadyReleased
    else .ok (Function.update table r (some { e with refCount := e.refCount - 1 }))

/--
The first critical section of `wait_for_rundown_ref`: set the flag and test the predicate of the
condition variable once. `true` means that the wait returns without sleeping.
-/
def waitForRundownRef (table : Table) (r : Ref) : Except Error (Bool × Table) :=
  match table r with
  | none => .error .notInitialized
  | some e => .ok (e.refCount == 0, Function.update table r (some { e with rundown := true }))

/-- The predicate that a sleeping wait tests when it is woken. -/
def waitPredicate (table : Table) (r : Ref) : Bool :=
  match table r with
  | none => false
  | some e => e.refCount == 0

/-! ## Runs -/

inductive Call where
  | initRef (r : Ref)
  | reinitRef (r : Ref)
  | acquire (r : Ref)
  | release (r : Ref)
  | wait (r : Ref)
  /-- A wait on `r` that sleeps is woken, finds its predicate true and returns. -/
  | wake (r : Ref)
deriving DecidableEq, Repr

def Call.ref : Call → Ref
  | .initRef r | .reinitRef r | .acquire r | .release r | .wait r | .wake r => r

structure Action where
  thread : Tid
  call : Call
deriving DecidableEq, Repr

inductive Event where
  | initialized (r : Ref)
  | reinitialized (r : Ref)
  | acquired (r : Ref) (result : Bool)
  | released (r : Ref)
  | waitStarted (r : Ref)
  | waitReturned (r : Ref)
  | threw (call : Call) (error : Error)
deriving DecidableEq, Repr

structure State where
  table : Table
  /-- The threads that sleep in `wait_for_rundown_ref`, with the reference they wait for. -/
  waiting : List (Tid × Ref)
  /-- What happened so far, newest first. -/
  log : List Event

def State.init : State := { table := fun _ => none, waiting := [], log := [] }

/-- A call that threw returns to its caller and changes nothing but the log. -/
def State.threw (s : State) (call : Call) (e : Error) : State :=
  { s with log := .threw call e :: s.log }

def call (s : State) (t : Tid) : Call → Option State
  | .initRef r =>
    some { s with table := initializeRundownRef s.table r, log := .initialized r :: s.log }
  | .reinitRef r =>
    match reinitializeRundownRef s.table r with
    | .error e => some (s.threw (.reinitRef r) e)
    | .ok table => some { s with table := table, log := .reinitialized r :: s.log }
  | .acquire r =>
    match acquireRundownRef s.table r with
    | .error e => some (s.threw (.acquire r) e)
    | .ok (result, table) => some { s with table := table, log := .acquired r result :: s.log }
  | .release r =>
    match releaseRundownRef s.table r with
    | .error e => some (s.threw (.release r) e)
    | .ok table => some { s with table := table, log := .released r :: s.log }
  | .wait r =>
    match waitForRundownRef s.table r with
    | .error e => some (s.threw (.wait r) e)
    | .ok (true, table) =>
      some { s with table := table, log := .waitReturned r :: .waitStarted r :: s.log }
    | .ok (false, table) =>
      some { table := table, waiting := (t, r) :: s.waiting, log := .waitStarted r :: s.log }
  | .wake r =>
    if (t, r) ∈ s.waiting ∧ waitPredicate s.table r = true then
      some { s with waiting := s.waiting.erase (t, r), log := .waitReturned r :: s.log }
    else none

/-- A thread that sleeps in a wait makes no other call. -/
def step (s : State) (a : Action) : Option State :=
  if (s.waiting.any fun w => w.1 == a.thread) && a.call != .wake a.call.ref then none
  else call s a.thread a.call

/-! ## What the log says -/

/-- The part of the log since the last `initialize` of `r`. -/
def sinceInitialize (r : Ref) (log : List Event) : List Event :=
  log.takeWhile fun e => e != .initialized r

def acquires (r : Ref) (log : List Event) : Nat := (sinceInitialize r log).count (.acquired r true)

def releases (r : Ref) (log : List Event) : Nat := (sinceInitialize r log).count (.released r)

/-- A wait on `r` has started and no `initialize` or `reinitialize` succeeded since. -/
def runDown (r : Ref) : List Event → Bool
  | [] => false
  | .waitStarted r' :: log => if r' = r then true else runDown r log
  | .initialized r' :: log => if r' = r then false else runDown r log
  | .reinitialized r' :: log => if r' = r then false else runDown r log
  | .acquired _ _ :: log => runDown r log
  | .released _ :: log => runDown r log
  | .waitReturned _ :: log => runDown r log
  | .threw _ _ :: log => runDown r log

/--
What the callers promise: a reference is not initialized again while a wait on it sleeps, and
fewer than `2 ^ 64` acquires of a reference are outstanding.
-/
def Admissible (s : State) (a : Action) : Prop :=
  match a.call with
  | .initRef r | .reinitRef r => ∀ w ∈ s.waiting, w.2 ≠ r
  | .acquire r => acquires r s.log - releases r s.log + 1 < 2 ^ 64
  | .release _ | .wait _ | .wake _ => True

instance (s : State) (a : Action) : Decidable (Admissible s a) :=
  match a with
  | ⟨_, .initRef _⟩ | ⟨_, .reinitRef _⟩ => List.decidableBAll _ s.waiting
  | ⟨_, .acquire _⟩ => Nat.decLt _ _
  | ⟨_, .release _⟩ | ⟨_, .wait _⟩ | ⟨_, .wake _⟩ => isTrue trivial

end Usersim.Rundown
