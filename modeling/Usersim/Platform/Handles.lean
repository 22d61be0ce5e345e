import Usersim.Lib.Ledger
import Usersim.Timer.Basic

/-!
# The handles of timers and semaphores (`ke.cpp`)

The kernel has no call that cleans up a timer or a semaphore, so the thread pool timers and the OS
semaphores are kept in two lists that `usersim_platform_terminate` closes. A timer that is
initialized again while it is running loses its thread pool timer, which stays in the list; one that
was running when the list was closed still has a pointer to what was closed (`State.stale`).

* `handles_closed_once` — every handle is closed once, and those that are open are the listed ones
-/

namespace Usersim.Platform.Handles

open Lib Timer

abbrev SemaphoreHandle := Nat

inductive Resource where
  | threadpoolTimer (tp : Handle)
  | semaphore (h : SemaphoreHandle)
deriving DecidableEq, Repr

structure State where
  timer : Timer.State
  /-- `g_usersim_semaphore_handles`. -/
  semaphoreHandles : List SemaphoreHandle
  /-- What was created and closed. Not part of the code. -/
  ledger : List (Entry Resource)
  /-- The timers whose thread pool timer was closed by `usersim_free_threadpool_timers`. Not part of
  the code. -/
  stale : TimerId → Bool

def State.init : State where
  timer := Timer.State.init
  semaphoreHandles := []
  ledger := []
  stale := fun _ => false

inductive Action where
  | timer (a : Timer.Action)
  | keInitializeTimer (t : TimerId)
  | usersimFreeThreadpoolTimers
  /-- `created` is what `CreateSemaphore` returns, null if it fails. -/
  | keInitializeSemaphore (created : SemaphoreHandle)
  | usersimFreeSemaphores
deriving DecidableEq, Repr

/-- The thread pool timers that a call creates and closes. -/
def timerEntries (s : Timer.State) : Timer.Action → List (Entry Resource)
  | .keSetTimer t _ _ created | .keSetTimerEx t _ _ _ created
  | .keSetCoalescableTimer t _ _ _ _ created =>
    if (s.timers t).threadpoolTimer = none then
      created.toList.map fun tp => .acquire (.threadpoolTimer tp)
    else []
  | .keCancelTimer t =>
    (s.timers t).threadpoolTimer.toList.map fun tp => .release (.threadpoolTimer tp)
  | .keReadStateTimer _ | .elapse _ | .callback .. => []

/-- `KeInitializeTimer`: the timer is zeroed, whatever it had. -/
def initializeTimer (s : Timer.State) (t : TimerId) : Timer.State :=
  { s with
    timers := Function.update s.timers t keInitializeTimer
    latest := Function.update s.latest t (Timer.State.init.latest t) }

/-- `usersim_free_threadpool_timers`. -/
def freeThreadpoolTimers (s : Timer.State) : Timer.State :=
  { s with
    os := fun tp => if tp ∈ s.threadpoolTimers then none else s.os tp
    threadpoolTimers := [] }

/-- A null handle is in the list, but there is nothing to close. -/
def semaphores (handles : List SemaphoreHandle) : List Resource :=
  (handles.filter (· ≠ 0)).map .semaphore

def step (s : State) : Action → Option State
  | .timer a =>
    (Timer.step s.timer a).map fun timer =>
      { s with timer := timer, ledger := s.ledger ++ timerEntries s.timer a }
  | .keInitializeTimer t =>
    some { s with
      timer := initializeTimer s.timer t
      stale := Function.update s.stale t false }
  | .usersimFreeThreadpoolTimers =>
    some { s with
      timer := freeThreadpoolTimers s.timer
      ledger := s.ledger ++
        (s.timer.threadpoolTimers.map .threadpoolTimer).map .release
      stale := fun t => s.stale t || (s.timer.timers t).threadpoolTimer.isSome }
  | .keInitializeSemaphore created =>
    some { s with
      semaphoreHandles := s.semaphoreHandles ++ [created]
      ledger := s.ledger ++ (semaphores [created]).map .acquire }
  | .usersimFreeSemaphores =>
    some { s with
      semaphoreHandles := []
      ledger := s.ledger ++ (semaphores s.semaphoreHandles).map .release }

/-- The timer that a call sets or cancels. -/
def uses : Timer.Action → Option TimerId
  | .keSetTimer t .. | .keSetTimerEx t .. | .keSetCoalescableTimer t .. | .keCancelTimer t => some t
  | .keReadStateTimer _ | .elapse _ | .callback .. => none

/-- What the timer calls ask for; and a timer that was running when the thread pool timers were
closed is initialized again before it is set or cancelled. -/
def Permitted (s : State) : Action → Prop
  | .timer a => Timer.Admissible s.timer a ∧ (uses a).all (fun t => !s.stale t) = true
  | _ => True

instance (s : State) (a : Action) : Decidable (Permitted s a) :=
  match a with
  | .timer _ => inferInstanceAs (Decidable (_ ∧ _))
  | .keInitializeTimer _ | .usersimFreeThreadpoolTimers | .keInitializeSemaphore _
  | .usersimFreeSemaphores => isTrue trivial

/-! ## What is open -/

def State.holds (s : State) : Multiset Resource :=
  ↑(s.timer.threadpoolTimers.map Resource.threadpoolTimer) + ↑(semaphores s.semaphoreHandles)

structure Inv (s : State) : Prop where
  type : ∀ t, (s.timer.timers t).objectType = .timer
  nodup : s.timer.threadpoolTimers.Nodup
  listed : ∀ tp, s.timer.os tp ≠ none ↔ tp ∈ s.timer.threadpoolTimers
  current : ∀ t tp, s.stale t = false → (s.timer.timers t).threadpoolTimer = some tp →
    ∃ o, s.timer.os tp = some o ∧ o.context = t

theorem inv_init : Inv State.init where
  type := fun _ => rfl
  nodup := List.nodup_nil
  listed := fun tp => by simp [State.init, Timer.State.init]
  current := nofun

/-! ## The timer calls -/

variable {s s' : State} {t : TimerId} {tp : Handle}

/-- What a timer call does to the open thread pool timers. -/
structure Kept (s : State) (timer : Timer.State) : Prop where
  type : ∀ t, (timer.timers t).objectType = .timer
  handle : ∀ t, (timer.timers t).threadpoolTimer = (s.timer.timers t).threadpoolTimer
  listed : timer.threadpoolTimers = s.timer.threadpoolTimers
  os : ∀ tp, (timer.os tp).map TpTimer.context = (s.timer.os tp).map TpTimer.context

/-- Nothing is created or closed. -/
theorem Inv.kept {timer : Timer.State} {ledger : List (Entry Resource)} (h : Inv s)
    (hk : Kept s timer) : Inv { s with timer := timer, ledger := ledger } := by
  have hnone : ∀ tp, timer.os tp = none ↔ s.timer.os tp = none := fun tp => by
    rw [← Option.map_eq_none_iff (f := TpTimer.context), hk.os, Option.map_eq_none_iff]
  refine ⟨hk.type, ?_, fun tp => ?_, fun t tp hstale htp => ?_⟩
  · show timer.threadpoolTimers.Nodup
    rw [hk.listed]
    exact h.nodup
  · show timer.os tp ≠ none ↔ tp ∈ timer.threadpoolTimers
    rw [hk.listed, ne_eq, hnone]
    exact h.listed tp
  · have hold : (s.timer.timers t).threadpoolTimer = some tp := (hk.handle t).symm.trans htp
    obtain ⟨o, ho, hcontext⟩ := h.current t tp hstale hold
    have hos := hk.os tp
    rw [ho, Option.map_some] at hos
    obtain ⟨o', ho', hcontext'⟩ := Option.map_eq_some_iff.mp hos
    exact ⟨o', ho', hcontext'.trans hcontext⟩

theorem kept_start {timer : Timer.State} {dueTime : BitVec 64} {period tolerableDelay : BitVec 32}
    {dpc : Option Dpc} (hk : Kept s timer) (htp : (timer.timers t).threadpoolTimer = some tp) :
    Kept s (timer.start t tp dueTime period tolerableDelay dpc) := by
  refine ⟨fun t' => ?_, fun t' => ?_, hk.listed, fun tp' => ?_⟩
  · by_cases ht : t' = t
    · subst ht
      simpa [State.start] using hk.type t'
    · simpa [State.start, ht] using hk.type t'
  · by_cases ht : t' = t
    · subst ht
      simpa [State.start, htp] using hk.handle t'
    · simpa [State.start, ht] using hk.handle t'
  · by_cases hne : tp' = tp
    · subst hne
      rw [← hk.os tp']
      simp only [State.start, Function.update_self, Option.map_map]
      rfl
    · rw [← hk.os tp']
      simp [State.start, hne]

/-- A new thread pool timer. -/
theorem inv_create {ledger : List (Entry Resource)} {dueTime : BitVec 64}
    {period tolerableDelay : BitVec 32} {dpc : Option Dpc} (h : Inv s)
    (hfresh : s.timer.os tp = none) :
    Inv { s with
      timer := State.start { s.timer with
        os := Function.update s.timer.os tp (some (createThreadpoolTimer t))
        threadpoolTimers := s.timer.threadpoolTimers ++ [tp] }
          t tp dueTime period tolerableDelay dpc
      ledger := ledger } := by
  have hnew : tp ∉ s.timer.threadpoolTimers := fun hmem => (h.listed tp).mpr hmem hfresh
  refine ⟨fun t' => ?_, ?_, fun tp' => ?_, fun t' tp' hstale htp' => ?_⟩
  · by_cases ht : t' = t
    · subst ht
      simpa [State.start] using h.type t'
    · simpa [State.start, ht] using h.type t'
  · show (s.timer.threadpoolTimers ++ [tp]).Nodup
    exact h.nodup.append (List.nodup_singleton tp) (by simpa using hnew)
  · by_cases hne : tp' = tp
    · subst hne
      simp [State.start]
    · simpa [State.start, hne] using h.listed tp'
  · by_cases ht : t' = t
    · subst ht
      obtain rfl : tp = tp' := by simpa [State.start] using htp'
      exact ⟨setThreadpoolTimer (createThreadpoolTimer t') (some dueTime) period tolerableDelay,
        by simp [State.start], rfl⟩
    · have hold : (s.timer.timers t').threadpoolTimer = some tp' := by
        simpa [State.start, ht] using htp'
      obtain ⟨o, ho, hcontext⟩ := h.current t' tp' hstale hold
      have hne : tp' ≠ tp := by
        rintro rfl
        rw [hfresh] at ho
        cases ho
      exact ⟨o, by simpa [State.start, hne] using ho, hcontext⟩

theorem inv_set {timer : Timer.State} {dueTime : BitVec 64} {period tolerableDelay : BitVec 32}
    {dpc : Option Dpc} {created : Option Handle} {r : Bool} (h : Inv s)
    (ha : SetAdmissible s.timer t dueTime dpc created)
    (hs : keSetCoalescableTimer s.timer t dueTime period tolerableDelay dpc created =
      some (timer, r)) :
    Inv { s with
      timer := timer
      ledger := s.ledger ++
        if (s.timer.timers t).threadpoolTimer = none then
          created.toList.map fun tp => .acquire (.threadpoolTimer tp)
        else [] } ∧
      Settles (s.timer.threadpoolTimers.map Resource.threadpoolTimer : Multiset Resource)
        (if (s.timer.timers t).threadpoolTimer = none then
          created.toList.map fun tp => .acquire (.threadpoolTimer tp)
        else []) (timer.threadpoolTimers.map Resource.threadpoolTimer : Multiset Resource) := by
  rcases keSetCoalescableTimer_cases hs with ⟨tp, htp, rfl⟩ | ⟨tp, hnone, rfl, rfl⟩
  · rw [if_neg (by simp [htp])]
    exact ⟨h.kept (kept_start ⟨h.type, fun _ => rfl, rfl, fun _ => rfl⟩ htp), Settles.nil⟩
  · obtain ⟨tp', heq, hfresh⟩ := ha.2.2 hnone
    obtain rfl := Option.some.inj heq
    rw [if_pos hnone]
    refine ⟨inv_create h hfresh, ?_⟩
    have hlist : ((s.timer.threadpoolTimers ++ [tp]).map Resource.threadpoolTimer :
        Multiset Resource) = .threadpoolTimer tp ::ₘ
          (s.timer.threadpoolTimers.map Resource.threadpoolTimer : Multiset Resource) := by
      rw [List.map_append, Multiset.cons_coe]
      exact Multiset.coe_eq_coe.mpr List.perm_append_comm
    show Settles _ [Entry.acquire (.threadpoolTimer tp)]
      ((s.timer.threadpoolTimers ++ [tp]).map Resource.threadpoolTimer : Multiset Resource)
    rw [hlist]
    exact Settles.acquire _

/-- A cancel finds the thread pool timer of the timer open. -/
theorem keCancelTimer_eq (h : Inv s) (hstale : s.stale t = false)
    (htp : (s.timer.timers t).threadpoolTimer = some tp) :
    tp ∈ s.timer.threadpoolTimers ∧ keCancelTimer s.timer t = some ({ s.timer with
      timers := Function.update s.timer.timers t
        { s.timer.timers t with threadpoolTimer := none, signaled := false }
      threadpoolTimers := s.timer.threadpoolTimers.erase tp
      os := Function.update s.timer.os tp none
      latest := Function.update s.timer.latest t { s.timer.latest t with cancelled := true } },
      !(s.timer.timers t).signaled) := by
  obtain ⟨o, ho, -⟩ := h.current t tp hstale htp
  have hmem : tp ∈ s.timer.threadpoolTimers := (h.listed tp).mp (by simp [ho])
  refine ⟨hmem, ?_⟩
  rw [keCancelTimer, if_pos (h.type t), htp]
  exact if_pos hmem

theorem inv_cancel {timer : Timer.State} (h : Inv s) (hstale : s.stale t = false)
    (hs : (keCancelTimer s.timer t).map Prod.fst = some timer) :
    Inv { s with timer := timer
                 ledger := s.ledger ++ timerEntries s.timer (.keCancelTimer t) } ∧
      Settles (s.timer.threadpoolTimers.map Resource.threadpoolTimer : Multiset Resource)
        (timerEntries s.timer (.keCancelTimer t))
        (timer.threadpoolTimers.map Resource.threadpoolTimer : Multiset Resource) := by
  rw [timerEntries]
  cases htp : (s.timer.timers t).threadpoolTimer with
  | none =>
    rw [keCancelTimer, if_pos (h.type t), htp] at hs
    cases hs
    exact ⟨h.kept ⟨h.type, fun _ => rfl, rfl, fun _ => rfl⟩, Settles.nil⟩
  | some tp =>
    obtain ⟨hmem, hcancel⟩ := keCancelTimer_eq h hstale htp
    rw [hcancel] at hs
    cases hs
    obtain ⟨o, ho, hcontext⟩ := h.current t tp hstale htp
    refine ⟨⟨fun t' => ?_, h.nodup.erase tp, fun tp' => ?_, fun t' tp' hstale' htp' => ?_⟩, ?_⟩
    · by_cases ht : t' = t
      · subst ht
        simpa using h.type t'
      · simpa [ht] using h.type t'
    · by_cases hne : tp' = tp
      · subst hne
        simp [h.nodup.mem_erase_iff]
      · simpa [hne] using h.listed tp'
    · have ht : t' ≠ t := by
        rintro rfl
        simp at htp'
      have hold : (s.timer.timers t').threadpoolTimer = some tp' := by simpa [ht] using htp'
      obtain ⟨o', ho', hcontext'⟩ := h.current t' tp' hstale' hold
      have hne : tp' ≠ tp := by
        rintro rfl
        obtain rfl := Option.some.inj (ho.symm.trans ho')
        exact ht (hcontext'.symm.trans hcontext)
      exact ⟨o', by simpa [hne] using ho', hcontext'⟩
    · have hlist : (s.timer.threadpoolTimers.map Resource.threadpoolTimer : Multiset Resource) =
          .threadpoolTimer tp ::ₘ
            ((s.timer.threadpoolTimers.erase tp).map Resource.threadpoolTimer :
              Multiset Resource) := by
        rw [Multiset.cons_coe, ← List.map_cons]
        exact Multiset.coe_eq_coe.mpr ((List.perm_cons_erase hmem).map _)
      rw [hlist]
      exact Settles.release _

/-- The thread pool does its part. -/
theorem kept_elapse {timer : Timer.State} (h : Inv s)
    (hs : Timer.step s.timer (.elapse tp) = some timer) : Kept s timer := by
  obtain ⟨o, ho, hs⟩ := Option.bind_eq_some_iff.mp hs
  split at hs
  · cases hs
    refine ⟨h.type, fun _ => rfl, rfl, fun tp' => ?_⟩
    by_cases hne : tp' = tp
    · subst hne
      simp [ho, TpTimer.elapse]
    · simp [hne]
  · cases hs

theorem kept_callback {timer : Timer.State} {place : Nat} (h : Inv s)
    (hs : Timer.step s.timer (.callback tp place) = some timer) : Kept s timer := by
  obtain ⟨o, ho, hs⟩ := Option.bind_eq_some_iff.mp hs
  obtain ⟨setting, -, hs⟩ := Option.bind_eq_some_iff.mp hs
  obtain ⟨r, hr, rfl⟩ := Option.map_eq_some_iff.mp hs
  rw [usersimTimerCallback, if_pos (h.type _)] at hr
  cases hr
  refine ⟨fun t => ?_, fun t => ?_, rfl, fun tp' => ?_⟩
  · by_cases ht : t = o.context
    · subst ht
      simpa using h.type o.context
    · simpa [ht] using h.type t
  · by_cases ht : t = o.context
    · subst ht
      simp
    · simp [ht]
  · by_cases hne : tp' = tp
    · subst hne
      simp [ho]
    · simp [hne]

/-- A timer call, with what it creates and closes. -/
theorem inv_timer {a : Timer.Action} {timer : Timer.State} (h : Inv s)
    (hp : Permitted s (.timer a)) (hs : Timer.step s.timer a = some timer) :
    Inv { s with timer := timer, ledger := s.ledger ++ timerEntries s.timer a } ∧
      Settles (s.timer.threadpoolTimers.map Resource.threadpoolTimer : Multiset Resource)
        (timerEntries s.timer a)
        (timer.threadpoolTimers.map Resource.threadpoolTimer : Multiset Resource) := by
  obtain ⟨ha, hstale⟩ := hp
  cases a with
  | keSetTimer t dueTime dpc created | keSetTimerEx t dueTime period dpc created
  | keSetCoalescableTimer t dueTime period tolerableDelay dpc created =>
    obtain ⟨r, hr, rfl⟩ := Option.map_eq_some_iff.mp hs
    exact inv_set h ha hr
  | keCancelTimer t =>
    exact inv_cancel h (by simpa [uses] using hstale) hs
  | keReadStateTimer t =>
    obtain ⟨b, -, rfl⟩ := Option.map_eq_some_iff.mp hs
    exact ⟨h.kept ⟨h.type, fun _ => rfl, rfl, fun _ => rfl⟩, Settles.nil⟩
  | elapse tp =>
    have hk := kept_elapse h hs
    refine ⟨h.kept hk, ?_⟩
    rw [hk.listed]
    exact Settles.nil
  | callback tp place =>
    have hk := kept_callback h hs
    refine ⟨h.kept hk, ?_⟩
    rw [hk.listed]
    exact Settles.nil

/-! ## The other calls -/

theorem inv_initializeTimer (h : Inv s) :
    Inv { s with
      timer := initializeTimer s.timer t
      stale := Function.update s.stale t false } := by
  refine ⟨fun t' => ?_, h.nodup, h.listed, fun t' tp hstale htp => ?_⟩
  · by_cases ht : t' = t
    · subst ht
      simp [initializeTimer, keInitializeTimer]
    · simpa [initializeTimer, ht] using h.type t'
  · have ht : t' ≠ t := by
      rintro rfl
      simp [initializeTimer, keInitializeTimer] at htp
    exact h.current t' tp (by simpa [ht] using hstale) (by simpa [initializeTimer, ht] using htp)

theorem inv_freeThreadpoolTimers (h : Inv s) {ledger : List (Entry Resource)} :
    Inv { s with
      timer := freeThreadpoolTimers s.timer
      ledger := ledger
      stale := fun t => s.stale t || (s.timer.timers t).threadpoolTimer.isSome } := by
  refine ⟨h.type, List.nodup_nil, fun tp => ?_, fun t tp hstale htp => ?_⟩
  · have hlisted := h.listed tp
    by_cases hmem : tp ∈ s.timer.threadpoolTimers
    · simp [freeThreadpoolTimers, hmem]
    · simpa [freeThreadpoolTimers, hmem] using hlisted
  · have hsome : (s.timer.timers t).threadpoolTimer = some tp := htp
    simp [hsome] at hstale

theorem settles_step {a : Action} (h : Inv s) (hp : Permitted s a) (hs : step s a = some s') :
    Inv s' ∧ ∃ es, s'.ledger = s.ledger ++ es ∧ Settles s.holds es s'.holds := by
  cases a with
  | timer a =>
    obtain ⟨timer, htimer, rfl⟩ := Option.map_eq_some_iff.mp hs
    obtain ⟨hinv, hsettles⟩ := inv_timer h hp htimer
    exact ⟨hinv, _, rfl, hsettles.frame _⟩
  | keInitializeTimer t =>
    cases hs
    exact ⟨inv_initializeTimer h, [], (List.append_nil _).symm, Settles.nil⟩
  | usersimFreeThreadpoolTimers =>
    cases hs
    refine ⟨inv_freeThreadpoolTimers h, _, rfl, ?_⟩
    have hall := Settles.releaseAll (semaphores s.semaphoreHandles : Multiset Resource)
      (s.timer.threadpoolTimers.map Resource.threadpoolTimer)
    simpa [State.holds, freeThreadpoolTimers] using hall
  | keInitializeSemaphore created =>
    cases hs
    refine ⟨⟨h.type, h.nodup, h.listed, h.current⟩, _, rfl, ?_⟩
    have hall := Settles.acquireAll s.holds (semaphores [created])
    have hlist : State.holds { s with
        semaphoreHandles := s.semaphoreHandles ++ [created]
        ledger := s.ledger ++ (semaphores [created]).map .acquire } =
          (semaphores [created] : Multiset Resource) + s.holds := by
      have happend : semaphores (s.semaphoreHandles ++ [created]) =
          semaphores s.semaphoreHandles ++ semaphores [created] := by
        simp [semaphores]
      simp only [State.holds, happend, Multiset.coe_add]
      rw [← List.append_assoc]
      exact Multiset.coe_eq_coe.mpr List.perm_append_comm
    rw [hlist]
    exact hall
  | usersimFreeSemaphores =>
    cases hs
    refine ⟨⟨h.type, h.nodup, h.listed, h.current⟩, _, rfl, ?_⟩
    have hall := Settles.releaseAll
      (s.timer.threadpoolTimers.map Resource.threadpoolTimer : Multiset Resource)
      (semaphores s.semaphoreHandles)
    rw [Multiset.add_comm] at hall
    simpa [State.holds, semaphores] using hall

/-! ## Every run -/

theorem settled_exec {run : List Action} (hinv : Inv s) (hledger : Settles 0 s.ledger s.holds)
    (hg : Guarded step Permitted s run) (h : exec step s run = some s') :
    Inv s' ∧ Settles 0 s'.ledger s'.holds := by
  refine exec_invariant_of_guard (P := fun s => Inv s ∧ Settles 0 s.ledger s.holds) ?_
    ⟨hinv, hledger⟩ hg h
  rintro s a s' ⟨hinv, hledger⟩ hp hs
  obtain ⟨hinv', es, hes, hsettles⟩ := settles_step hinv hp hs
  rw [hes]
  exact ⟨hinv', hledger.append hsettles⟩

/-- The end of `usersim_platform_terminate`, as far as the handles go. -/
def closeAll : List Action := [.usersimFreeSemaphores, .usersimFreeThreadpoolTimers]

/-- What the two lists are for: whatever was created is closed once, and never before. -/
structure ClosedOnce (s : State) : Prop where
  settled : Settles 0 s.ledger 0
  once : ∀ r, s.ledger.count (.acquire r) = s.ledger.count (.release r)
  none : ∀ tp, s.timer.os tp = none

/--
However timers are set, cancelled, initialized again and run out, and however many semaphores there
are, some of which could not be created: when both lists have been closed, every thread pool timer
and every semaphore was closed as often as it was created.
-/
theorem handles_closed_once (run : List Action) (s : State)
    (hg : Guarded step Permitted State.init run) (h : exec step State.init run = some s) :
    ∃ s', exec step s closeAll = some s' ∧ ClosedOnce s' := by
  obtain ⟨hinv, hledger⟩ := settled_exec inv_init Settles.nil hg h
  have hclose : Guarded step Permitted s closeAll :=
    ⟨trivial, fun _ _ => ⟨trivial, fun _ _ => trivial⟩⟩
  refine ⟨_, rfl, ?_⟩
  obtain ⟨hinv', hledger'⟩ := settled_exec hinv hledger hclose rfl
  have hsettled : Settles 0 _ 0 := hledger'
  refine ⟨hsettled, fun r => ?_, fun tp => ?_⟩
  · simpa using hsettled.count r
  · by_contra hopen
    exact absurd ((hinv'.listed tp).mp hopen) (List.not_mem_nil)

/-- A timer is initialized again while it runs, one is cancelled, one is still running, and the
second of three semaphores could not be created. -/
def lostTimer : List Action :=
  [.timer (.keSetTimer 0 (-5) (some 1) (some 10)), .keInitializeTimer 0,
    .timer (.keSetTimer 0 (-5) (some 1) (some 11)),
    .timer (.keSetTimerEx 1 (-7) 3 (some 2) (some 12)),
    .keInitializeSemaphore 20, .keInitializeSemaphore 0, .keInitializeSemaphore 21,
    .timer (.keCancelTimer 1), .timer (.elapse 10), .timer (.callback 10 0)]

theorem handles_closed_once_lostTimer : ∃ s, exec step State.init lostTimer = some s ∧
    ∃ s', exec step s closeAll = some s' ∧ ClosedOnce s' := by
  obtain ⟨s, hs, -⟩ : ∃ s, exec step State.init lostTimer = some s ∧
      s.semaphoreHandles = [20, 0, 21] := exec_of_check (by decide +kernel)
  have hg : Guarded step Permitted State.init lostTimer := guarded_of_check (by decide +kernel)
  exact ⟨s, hs, handles_closed_once lostTimer s hg hs⟩

end Usersim.Platform.Handles
