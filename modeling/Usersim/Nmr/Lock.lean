import Usersim.Nmr.Handles

/-!
# The lock of the registrar

`step` takes a critical section and what follows it up to the next callback as one action. Here
the lock is taken and released, the callbacks are entered and left, and the calls are on the stacks
of the threads that make them: a callback runs on the thread that invoked it, and the calls it
makes are nested in it. `unbind_complete` makes its clean-up callbacks in its critical section; all
other callbacks are made after the lock has been released.

* `nmr_exec` — the registrar goes through a run of `step`
* `callbacks_unlocked` — no thread in a callback holds the lock, in every run in which no binding
  is completed that has something to clean up
-/

namespace Usersim.Nmr.Lock

open Lib

/-- A thread; a `Tid` is one of the calls it makes. -/
abbrev Thread := Nat

inductive Callback where
  | clientAttachProvider
  | providerAttachClient
  | clientDetachProvider
  | providerDetachClient
  | cleanupBindingContext (side : Side)
deriving DecidableEq

/-- Where a call is. -/
inductive Phase where
  /-- In the code of the registrar, without the lock. -/
  | outside
  /-- In a critical section; the sides it has yet to call for their contexts to be cleaned up. -/
  | held (cleanups : List Side)
  /-- Inside a callback that is not one of `unbind_complete`. -/
  | inCallback (callback : Callback)
  /-- Inside a callback of `unbind_complete`. -/
  | inCleanup (side : Side) (cleanups : List Side)
  /-- `ClientAttachProvider` has returned. -/
  | attachReturned (success : Bool)
deriving DecidableEq

def Phase.callback : Phase → Option Callback
  | .inCallback callback => some callback
  | .inCleanup side _ => some (.cleanupBindingContext side)
  | .outside | .held _ | .attachReturned _ => none

structure Call where
  tid : Tid
  phase : Phase

structure LockState where
  nmr : State
  /-- The thread that holds the lock. -/
  lock : Option Thread
  /-- The calls a thread is in, the innermost first. -/
  stack : Thread → List Call
  nextCall : Tid

def LockState.init : LockState where
  nmr := .init
  lock := none
  stack := fun _ => []
  nextCall := 0

/-- The callback the thread is inside of, if it is not in a call made by the callback. -/
def LockState.callback (s : LockState) (thread : Thread) : Option Callback :=
  (s.stack thread).head?.bind fun call => call.phase.callback

/-! ## Critical sections -/

/-- The binding that `unbind_complete` is called for. -/
def completes (s : State) : Action → Option BindingId
  | .finish t =>
    match s.ops t with
    | .beginUnbind _ _ _ _ b .finish | .detachComplete b => some b
    | _ => none
  | .attachReturn t false => (s.ops t).inAttach
  | _ => none

/-- The side has a clean-up callback and its context is not null. -/
def callsCleanup (s : State) (b : BindingId) (side : Side) : Bool :=
  (s.registration ((s.binding b).registration side)).hasCleanup &&
    ((s.binding b).context side).isSome

/-- The sides a critical section calls for their contexts to be cleaned up. -/
def cleanups (s : State) (a : Action) : List Side :=
  match completes s a with
  | some b => [Side.client, Side.provider].filter (callsCleanup s b)
  | none => []

/-- The critical section may begin. -/
def takesLock : Action → Phase → Bool
  | .register .., .outside | .bindScan _, .outside | .deregister .., .outside
  | .unbindScan .., .outside | .beginUnbind _, .outside | .commit _, .outside
  | .finish _, .outside | .remove _, .outside | .wake _, .outside
  | .detachComplete .., .outside => true
  | .clientAttachProvider .., .inCallback .clientAttachProvider => true
  | .attachReturn _ success, .attachReturned returned => success == returned
  | _, _ => false

/-- What an action without a critical section does to the phase of its call. -/
def runPhase : Action → Phase → Option Phase
  | .attach _, .outside => some (.inCallback .clientAttachProvider)
  | .providerAttachReturn .., .inCallback .providerAttachClient =>
    some (.inCallback .clientAttachProvider)
  | .clientDetachReturn .., .inCallback .clientDetachProvider => some .outside
  | .providerDetachReturn .., .inCallback .providerDetachClient => some .outside
  | .registerReturn _, .outside | .unbindReturn _, .outside | .wait .., .outside => some .outside
  | _, _ => none

/-- Where the call goes on when it has released the lock. -/
def releasePhase : Op → Phase
  -- `client_attach_provider` has thrown, and returns to the callback it was called from
  | .inClientAttach .. => .inCallback .clientAttachProvider
  | _ => .outside

/-- The callback that is invoked next, after the lock has been released. -/
def nextCallback : Op → Option Callback
  | .inProviderAttach .. => some .providerAttachClient
  | .beginUnbind _ _ _ _ _ .inClient => some .clientDetachProvider
  | .beginUnbind _ _ _ _ _ (.inProvider _) => some .providerDetachClient
  | _ => none

/-! ## Actions -/

inductive LockAction where
  /-- The thread calls a function of the registrar, maybe from inside a callback. -/
  | call (thread : Thread)
  | leave (thread : Thread)
  /-- What has no critical section. -/
  | run (thread : Thread) (a : Action)
  /-- Takes the lock. -/
  | acquire (thread : Thread) (a : Action)
  | release (thread : Thread)
  /-- Invokes a callback other than `ClientAttachProvider`. -/
  | invoke (thread : Thread)
  /-- `ClientAttachProvider` returns. -/
  | attachReturn (thread : Thread) (success : Bool)
  /-- `unbind_complete` invokes a clean-up callback. -/
  | cleanUp (thread : Thread)
  | cleanUpReturn (thread : Thread)

/-- The innermost call of a thread goes to another phase. -/
def LockState.setPhase (s : LockState) (thread : Thread) (t : Tid) (rest : List Call)
    (phase : Phase) : LockState :=
  { s with stack := Function.update s.stack thread ({ tid := t, phase := phase } :: rest) }

/-- A step of the innermost call of a thread. -/
def callStep (s : LockState) (t : Tid) (phase : Phase) (rest : List Call) :
    LockAction → Option LockState
  | .call thread =>
    match phase.callback with
    | some _ =>
      some { s with
        stack := Function.update s.stack thread
          ({ tid := s.nextCall, phase := .outside } :: s.stack thread)
        nextCall := s.nextCall + 1 }
    | none => none
  | .leave thread =>
    if phase = .outside ∧ (s.nmr.ops t).isIdle then
      some { s with stack := Function.update s.stack thread rest }
    else none
  | .run thread a =>
    if a.tid = t then
      match runPhase a phase, step s.nmr a with
      | some phase', some nmr => some ({ s with nmr := nmr }.setPhase thread t rest phase')
      | _, _ => none
    else none
  | .acquire thread a =>
    if a.tid = t ∧ takesLock a phase ∧ s.lock = none then
      match step s.nmr a with
      | some nmr =>
        some ({ s with nmr := nmr, lock := some thread }.setPhase thread t rest
          (.held (cleanups s.nmr a)))
      | none => none
    else none
  | .release thread =>
    match phase with
    | .held [] => some ({ s with lock := none }.setPhase thread t rest (releasePhase (s.nmr.ops t)))
    | _ => none
  | .invoke thread =>
    match phase, nextCallback (s.nmr.ops t) with
    | .outside, some callback => some (s.setPhase thread t rest (.inCallback callback))
    | _, _ => none
  | .attachReturn thread success =>
    match phase with
    | .inCallback .clientAttachProvider =>
      some (s.setPhase thread t rest (.attachReturned success))
    | _ => none
  | .cleanUp thread =>
    match phase with
    | .held (side :: todo) => some (s.setPhase thread t rest (.inCleanup side todo))
    | _ => none
  | .cleanUpReturn thread =>
    match phase with
    | .inCleanup _ todo => some (s.setPhase thread t rest (.held todo))
    | _ => none

def LockAction.thread : LockAction → Thread
  | .call thread | .leave thread | .run thread _ | .acquire thread _ | .release thread
  | .invoke thread | .attachReturn thread _ | .cleanUp thread | .cleanUpReturn thread => thread

def lockStep (s : LockState) (a : LockAction) : Option LockState :=
  match s.stack a.thread with
  | { tid := t, phase := phase } :: rest => callStep s t phase rest a
  | [] =>
    match a with
    | .call thread =>
      some { s with
        stack := Function.update s.stack thread [{ tid := s.nextCall, phase := .outside }]
        nextCall := s.nextCall + 1 }
    | _ => none

/-! ## The registrar -/

/-- The action of the registrar, if there is one. -/
def LockAction.nmr : LockAction → Option Action
  | .run _ a | .acquire _ a => some a
  | .call _ | .leave _ | .release _ | .invoke _ | .attachReturn .. | .cleanUp _
  | .cleanUpReturn _ => none

variable {s s' : LockState} {a : LockAction} {t : Tid} {phase : Phase} {rest : List Call}

theorem nmr_callStep (h : callStep s t phase rest a = some s') :
    exec step s.nmr a.nmr.toList = some s'.nmr := by
  cases a with
  | call thread =>
    simp only [callStep] at h
    split at h <;> cases h
    rfl
  | leave thread =>
    simp only [callStep, Option.ite_none_right_eq_some, Option.some.injEq] at h
    obtain ⟨-, rfl⟩ := h
    rfl
  | run thread a =>
    simp only [callStep, Option.ite_none_right_eq_some] at h
    obtain ⟨-, h⟩ := h
    split at h
    · rename_i hnmr
      cases h
      show exec step s.nmr [a] = _
      rw [exec_cons, hnmr]
      rfl
    · cases h
  | acquire thread a =>
    simp only [callStep, Option.ite_none_right_eq_some] at h
    obtain ⟨-, h⟩ := h
    split at h
    · rename_i hnmr
      cases h
      show exec step s.nmr [a] = _
      rw [exec_cons, hnmr]
      rfl
    · cases h
  | release thread | invoke thread | attachReturn thread success | cleanUp thread
  | cleanUpReturn thread =>
    simp only [callStep] at h
    split at h <;> cases h
    rfl

theorem nmr_lockStep (h : lockStep s a = some s') :
    exec step s.nmr a.nmr.toList = some s'.nmr := by
  unfold lockStep at h
  split at h
  · exact nmr_callStep h
  · split at h
    · cases h
      rfl
    · cases h

/-- The registrar goes through a run of `step`. -/
theorem nmr_exec {run : List LockAction} (h : exec lockStep s run = some s') :
    exec step s.nmr (run.filterMap LockAction.nmr) = some s'.nmr := by
  induction run generalizing s with
  | nil =>
    cases h
    rfl
  | cons a run ih =>
    obtain ⟨s₁, h₁, h₂⟩ := exec_cons_eq_some.mp h
    have hfirst := nmr_lockStep h₁
    have hrest := ih h₂
    cases hnmr : a.nmr with
    | none =>
      rw [hnmr] at hfirst
      have hsame : s.nmr = s₁.nmr := Option.some.inj hfirst
      rw [List.filterMap_cons_none hnmr, hsame]
      exact hrest
    | some x =>
      rw [hnmr] at hfirst
      rw [List.filterMap_cons_some hnmr, exec_cons_eq_some]
      obtain ⟨nmr, hx, hnil⟩ := exec_cons_eq_some.mp hfirst
      cases hnil
      exact ⟨_, hx, hrest⟩

/-! ## Who holds the lock -/

/-- `unbind_complete` is not entered for a binding of which a side has a context and a callback
that cleans it up. -/
def NothingToCleanUp (s : LockState) : LockAction → Prop
  | .acquire _ a => ∀ b ∈ completes s.nmr a, ∀ side, callsCleanup s.nmr b side = false
  | .call _ | .leave _ | .run .. | .release _ | .invoke _ | .attachReturn .. | .cleanUp _
  | .cleanUpReturn _ => True

theorem mem_cleanups {s : State} {a : Action} {side : Side} :
    side ∈ cleanups s a ↔ ∃ b, completes s a = some b ∧ callsCleanup s b side = true := by
  unfold cleanups
  cases completes s a with
  | none => simp
  | some b => cases side <;> simp

theorem cleanups_eq_nil {s : State} {a : Action} :
    cleanups s a = [] ↔ ∀ b ∈ completes s a, ∀ side, callsCleanup s b side = false := by
  rw [List.eq_nil_iff_forall_not_mem]
  constructor
  · intro h b hb side
    rw [← Bool.not_eq_true]
    exact fun hside => h side (mem_cleanups.mpr ⟨b, hb, hside⟩)
  · intro h side hmem
    obtain ⟨b, hb, hside⟩ := mem_cleanups.mp hmem
    rw [h b hb side] at hside
    cases hside

instance (s : LockState) : (a : LockAction) → Decidable (NothingToCleanUp s a)
  | .acquire _ _ => decidable_of_iff _ cleanups_eq_nil
  | .call _ | .leave _ | .run .. | .release _ | .invoke _ | .attachReturn .. | .cleanUp _
  | .cleanUpReturn _ => isTrue trivial

/-- The thread with the lock is in a critical section and has no callback to make there. -/
def HoldsOnly (s : LockState) : Prop :=
  ∀ thread, s.lock = some thread →
    ∃ t rest, s.stack thread = { tid := t, phase := .held [] } :: rest

theorem holdsOnly_init : HoldsOnly LockState.init := by
  intro thread h
  cases h

/-- A thread without the lock leaves it alone. -/
theorem HoldsOnly.restack (hs : HoldsOnly s) {thread : Thread} {calls : List Call}
    (hfree : s.lock ≠ some thread) (hlock : s'.lock = s.lock)
    (hstack : s'.stack = Function.update s.stack thread calls) : HoldsOnly s' := by
  intro u hu
  rw [hlock] at hu
  have hne : u ≠ thread := by
    rintro rfl
    exact hfree hu
  rw [hstack, Function.update_of_ne hne]
  exact hs u hu

/-- A thread in any other phase does not have the lock. -/
theorem HoldsOnly.lock_ne (hs : HoldsOnly s) {thread : Thread}
    (hstack : s.stack thread = { tid := t, phase := phase } :: rest) (hphase : phase ≠ .held []) :
    s.lock ≠ some thread := by
  intro hlock
  obtain ⟨u, rest', h⟩ := hs thread hlock
  rw [hstack] at h
  cases h
  exact hphase rfl

theorem runPhase_eq_some {a : Action} {phase' : Phase} (h : runPhase a phase = some phase') :
    phase ≠ .held [] := by
  rintro rfl
  cases a <;> cases h

theorem holdsOnly_callStep (hs : HoldsOnly s) (hg : NothingToCleanUp s a)
    (hstack : s.stack a.thread = { tid := t, phase := phase } :: rest)
    (h : callStep s t phase rest a = some s') : HoldsOnly s' := by
  cases a with
  | call thread =>
    simp only [callStep] at h
    split at h
    · rename_i callback hcallback
      cases h
      refine hs.restack (hs.lock_ne hstack ?_) rfl rfl
      rintro rfl
      cases hcallback
    · cases h
  | leave thread =>
    simp only [callStep, Option.ite_none_right_eq_some, Option.some.injEq] at h
    obtain ⟨⟨rfl, -⟩, rfl⟩ := h
    exact hs.restack (hs.lock_ne hstack nofun) rfl rfl
  | run thread a =>
    simp only [callStep, Option.ite_none_right_eq_some] at h
    obtain ⟨-, h⟩ := h
    split at h
    · rename_i hphase hnmr
      cases h
      exact hs.restack (hs.lock_ne hstack (runPhase_eq_some hphase)) rfl rfl
    · cases h
  | acquire thread a =>
    simp only [callStep, Option.ite_none_right_eq_some] at h
    obtain ⟨-, h⟩ := h
    split at h
    · cases h
      intro u hu
      obtain rfl : thread = u := Option.some.inj hu
      refine ⟨t, rest, ?_⟩
      show Function.update s.stack thread _ thread = _
      rw [Function.update_self, cleanups_eq_nil.mpr hg]
    · cases h
  | release thread =>
    simp only [callStep] at h
    split at h <;> cases h
    intro u hu
    cases hu
  | invoke thread =>
    simp only [callStep] at h
    split at h <;> cases h
    exact hs.restack (hs.lock_ne hstack nofun) rfl rfl
  | attachReturn thread success =>
    simp only [callStep] at h
    split at h <;> cases h
    exact hs.restack (hs.lock_ne hstack nofun) rfl rfl
  | cleanUp thread =>
    simp only [callStep] at h
    split at h <;> cases h
    exact hs.restack (hs.lock_ne hstack nofun) rfl rfl
  | cleanUpReturn thread =>
    simp only [callStep] at h
    split at h <;> cases h
    exact hs.restack (hs.lock_ne hstack nofun) rfl rfl

theorem holdsOnly_step (hs : HoldsOnly s) (hg : NothingToCleanUp s a)
    (h : lockStep s a = some s') : HoldsOnly s' := by
  unfold lockStep at h
  split at h
  · rename_i hstack
    exact holdsOnly_callStep hs hg hstack h
  · rename_i hstack
    split at h
    · rename_i thread
      cases h
      refine hs.restack ?_ rfl rfl
      intro hlock
      obtain ⟨t, rest, hheld⟩ := hs thread hlock
      rw [show s.stack thread = [] from hstack] at hheld
      cases hheld
    · cases h

/-- A callback finds the lock free, or about to be released by another thread. -/
structure CallsOutUnlocked (s : LockState) : Prop where
  unlocked : ∀ thread callback, s.callback thread = some callback → s.lock ≠ some thread
  released : ∀ owner, s.lock = some owner →
    ∃ s', lockStep s (.release owner) = some s' ∧ s'.lock = none

theorem HoldsOnly.callsOutUnlocked (hs : HoldsOnly s) : CallsOutUnlocked s where
  unlocked := by
    intro thread callback hcallback hlock
    obtain ⟨t, rest, hstack⟩ := hs thread hlock
    unfold LockState.callback at hcallback
    rw [hstack] at hcallback
    cases hcallback
  released := by
    intro owner hlock
    obtain ⟨t, rest, hstack⟩ := hs owner hlock
    have hstack' : s.stack (LockAction.release owner).thread = _ := hstack
    unfold lockStep
    rw [hstack']
    exact ⟨_, rfl, rfl⟩

/-- In every run of calls on any threads, nested in callbacks or not, in which `unbind_complete`
finds nothing to clean up: no thread in a callback holds the lock, and whoever holds it can release
it. -/
theorem callbacks_unlocked (run : List LockAction) (s : LockState)
    (hg : Guarded lockStep NothingToCleanUp LockState.init run)
    (h : exec lockStep LockState.init run = some s) : CallsOutUnlocked s := by
  have hs : HoldsOnly s :=
    exec_invariant_of_guard (fun _ _ _ hs hg h => holdsOnly_step hs hg h) holdsOnly_init hg h
  exact hs.callsOutUnlocked

theorem acquire_eq_some {thread : Thread} {a : Action}
    (h : lockStep s (.acquire thread a) = some s') :
    ∃ t rest, s'.lock = some thread ∧
      s'.stack thread = { tid := t, phase := .held (cleanups s.nmr a) } :: rest := by
  unfold lockStep at h
  split at h
  · simp only [callStep, Option.ite_none_right_eq_some] at h
    obtain ⟨-, h⟩ := h
    split at h
    · cases h
      exact ⟨_, _, rfl, Function.update_self ..⟩
    · cases h
  · cases h

/-- With something to clean up, the thread that has taken the lock goes on to a callback. -/
theorem cleanUp_locked {thread : Thread} {a : Action} {b : BindingId} {side : Side}
    (hb : completes s.nmr a = some b) (hside : callsCleanup s.nmr b side = true)
    (h : lockStep s (.acquire thread a) = some s') :
    ∃ s'', lockStep s' (.cleanUp thread) = some s'' ∧ ¬ CallsOutUnlocked s'' := by
  obtain ⟨t, rest, hlock, hstack⟩ := acquire_eq_some h
  have hmem := mem_cleanups.mpr ⟨b, hb, hside⟩
  obtain ⟨x, todo, hcleanups⟩ := List.exists_cons_of_ne_nil (List.ne_nil_of_mem hmem)
  rw [hcleanups] at hstack
  have hstack' : s'.stack (LockAction.cleanUp thread).thread = _ := hstack
  refine ⟨s'.setPhase thread t rest (.inCleanup x todo), ?_, ?_⟩
  · unfold lockStep
    rw [hstack']
    rfl
  · intro hunlocked
    refine hunlocked.unlocked thread (.cleanupBindingContext x) ?_ hlock
    show (Function.update s'.stack thread _ thread).head?.bind _ = _
    rw [Function.update_self]
    rfl

/-- A provider and a client register. The client attaches, and registers another client before its
callback returns. -/
def registersInCallback : List LockAction :=
  [.call 0, .acquire 0 (.register 0 .provider (some 7) true), .release 0, .acquire 0 (.bindScan 0),
   .release 0, .run 0 (.registerReturn 0), .acquire 0 (.register 0 .client (some 7) true),
   .release 0, .acquire 0 (.bindScan 0), .release 0, .run 0 (.attach 0),
   .acquire 0 (.clientAttachProvider 0 (some 5)), .release 0, .invoke 0,
   .run 0 (.providerAttachReturn 0 (some (some 6))),
   .call 0, .acquire 0 (.register 1 .client (some 8) false), .release 0,
   .acquire 0 (.bindScan 1), .release 0, .run 0 (.registerReturn 1), .leave 0]

theorem callbacks_unlocked_registersInCallback :
    ∃ s, exec lockStep LockState.init registersInCallback = some s ∧
      s.callback 0 = some .clientAttachProvider ∧ CallsOutUnlocked s := by
  obtain ⟨s, hs, hcallback⟩ : ∃ s, exec lockStep LockState.init registersInCallback = some s ∧
      s.callback 0 = some .clientAttachProvider := exec_of_check (by decide +kernel)
  have hg : Guarded lockStep NothingToCleanUp LockState.init registersInCallback :=
    guarded_of_check (by decide +kernel)
  exact ⟨s, hs, hcallback, callbacks_unlocked registersInCallback s hg hs⟩

/-- The client's attach fails after it has attached to the provider with a binding context. -/
def attachFails : List LockAction :=
  [.call 0, .acquire 0 (.register 0 .provider (some 7) false), .release 0,
   .acquire 0 (.bindScan 0), .release 0, .run 0 (.registerReturn 0),
   .acquire 0 (.register 0 .client (some 7) true), .release 0, .acquire 0 (.bindScan 0),
   .release 0, .run 0 (.attach 0), .acquire 0 (.clientAttachProvider 0 (some 5)), .release 0,
   .invoke 0, .run 0 (.providerAttachReturn 0 none), .attachReturn 0 false,
   .acquire 0 (.attachReturn 0 false), .cleanUp 0]

/-- `ClientCleanupBindingContext` is called with the lock held, and a call made in it does not get
the lock. -/
theorem cleanup_called_with_lock :
    ∃ s s', exec lockStep LockState.init attachFails = some s ∧
      s.callback 0 = some (.cleanupBindingContext .client) ∧ s.lock = some 0 ∧
      ¬ CallsOutUnlocked s ∧ lockStep s (.call 0) = some s' ∧
      ∀ side npiId hasCleanup,
        lockStep s' (.acquire 0 (.register 1 side npiId hasCleanup)) = none :=
  ⟨_, _, rfl, rfl, rfl, fun h => h.unlocked 0 _ rfl rfl, rfl, fun _ _ _ => rfl⟩

end Usersim.Nmr.Lock
