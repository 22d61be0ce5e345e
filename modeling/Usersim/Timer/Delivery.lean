import Mathlib.Data.List.Perm.Basic
import Usersim.Dpc.Barrier
import Usersim.Dpc.Conservation
import Usersim.Timer.StateMachine

/-!
# From timers to DPC routines (`ke.cpp`)

A callback of a thread pool timer marks the timer and then queues its DPC, as two critical sections
of its own thread: other threads set timers, cancel them, queue the same DPC or flush the queues in
between. `KeCancelTimer` waits for the callbacks that have started.

* `expiries_delivered` — every expiry is passed on to an insert that no worker had taken by then
* `cancel_then_flush` — what a driver relies on before it frees a timer and its DPC
-/

namespace Usersim.Timer.Delivery

open Lib

/-- `_usersim_timer_callback`, after its write: what it has read of the DPC so far. -/
structure Callback where
  threadpoolTimer : Handle
  timer : TimerId
  dpc : Dpc.DpcId
  parameter1 : Option Ptr
  parameter2 : Option Ptr
deriving DecidableEq, Repr

/-- A callback that has returned. Not part of the code. -/
structure Expiry where
  timer : TimerId
  dpc : Dpc.DpcId
  /-- The insert that the DPC is queued for. -/
  ticket : Nat
  /-- What had happened to the DPCs by then. -/
  log : List Dpc.Event
deriving DecidableEq, Repr

structure State where
  timer : Timer.State
  dpc : Dpc.State
  /-- The callbacks that have not returned. -/
  callbacks : List Callback
  expiries : List Expiry

def State.init (dpcs : Dpc.DpcId → Dpc.Kdpc) : State where
  timer := Timer.State.init
  dpc := Dpc.State.init dpcs
  callbacks := []
  expiries := []

inductive Action where
  | timer (a : Timer.Action)
  | dpc (a : Dpc.Action)
  /-- The callback at this place reads `timer->dpc->parameter_1`. -/
  | readParameter1 (place : Nat)
  | readParameter2 (place : Nat)
  /-- It calls `KeInsertQueueDpc` and returns. -/
  | keInsertQueueDpc (place : Nat)
deriving DecidableEq, Repr

/-- The callback that starts, if its timer has a DPC. -/
def begun (timer : Timer.State) : Timer.Action → List Callback
  | .callback tp _ =>
    match timer.os tp with
    | some o => (timer.timers o.context).dpc.toList.map fun d => ⟨tp, o.context, d, none, none⟩
    | none => []
  | _ => []

/-- `WaitForThreadpoolTimerCallbacks` in `KeCancelTimer`. -/
def waitsFor (s : State) : Timer.Action → List Callback
  | .keCancelTimer t =>
    s.callbacks.filter fun c => (s.timer.timers t).threadpoolTimer = some c.threadpoolTimer
  | _ => []

def step (n : Nat) (s : State) : Action → Option State
  | .timer a =>
    if waitsFor s a = [] then
      (Timer.step s.timer a).map fun timer =>
        { s with timer := timer, callbacks := begun s.timer a ++ s.callbacks }
    else none
  | .dpc a => (Dpc.step n s.dpc a).map fun dpc => { s with dpc := dpc }
  | .readParameter1 place =>
    s.callbacks[place]?.bind fun c =>
      if c.parameter1 = none then
        some { s with
          callbacks := s.callbacks.set place
            { c with parameter1 := some (s.dpc.dpcs c.dpc).parameter1 } }
      else none
  | .readParameter2 place =>
    s.callbacks[place]?.bind fun c =>
      if c.parameter2 = none then
        some { s with
          callbacks := s.callbacks.set place
            { c with parameter2 := some (s.dpc.dpcs c.dpc).parameter2 } }
      else none
  | .keInsertQueueDpc place =>
    s.callbacks[place]?.bind fun c => c.parameter1.bind fun p1 => c.parameter2.bind fun p2 =>
      (Dpc.step n s.dpc (.keInsertQueueDpc c.dpc p1 p2)).map fun dpc =>
        { s with
          dpc := dpc
          callbacks := s.callbacks.eraseIdx place
          expiries := ⟨c.timer, c.dpc, dpc.ticket c.dpc, dpc.log⟩ :: s.expiries }

/-- What timers and DPCs ask of their callers. -/
def Permitted (n : Nat) (s : State) : Action → Prop
  | .timer a => Timer.Admissible s.timer a
  | .dpc a => Dpc.OneFlush n s.dpc a
  | .readParameter1 _ | .readParameter2 _ | .keInsertQueueDpc _ => True

instance (n : Nat) (s : State) (a : Action) : Decidable (Permitted n s a) :=
  match a with
  | .timer _ => inferInstanceAs (Decidable (Timer.Admissible ..))
  | .dpc _ => inferInstanceAs (Decidable (Dpc.OneFlush ..))
  | .readParameter1 _ | .readParameter2 _ | .keInsertQueueDpc _ => isTrue trivial

/-- The timer that a call sets. -/
def Action.sets : Action → Option TimerId
  | .timer (.keSetTimer t ..) | .timer (.keSetTimerEx t ..)
  | .timer (.keSetCoalescableTimer t ..) => some t
  | _ => none

/-! ## What a timer call does to the callbacks -/

variable {n : Nat} {s s' : State} {q q' : Dpc.Queues} {t : TimerId} {u : Tid} {m : Nat}
  {timer timer' : Timer.State}

theorem threadpoolTimer_cancel (h : Timer.step timer (.keCancelTimer t) = some timer') :
    (timer'.timers t).threadpoolTimer = none := by
  obtain ⟨⟨_, r⟩, hr, rfl⟩ := Option.map_eq_some_iff.mp h
  simp only [keCancelTimer] at hr
  split at hr
  · split at hr
    · next hnone =>
      cases hr
      exact hnone
    · split at hr
      · cases hr
        simp
      · cases hr
  · cases hr

/-- Only a cancel takes the thread pool timer away, and only a set gives one. -/
theorem threadpoolTimer_step {a : Timer.Action} (h : Timer.step timer a = some timer')
    (t : TimerId) :
    (timer'.timers t).threadpoolTimer = (timer.timers t).threadpoolTimer ∨
      a = .keCancelTimer t ∧ (timer'.timers t).threadpoolTimer = none ∨
      (Action.timer a).sets = some t ∧ (timer.timers t).threadpoolTimer = none := by
  have hset : ∀ t' dueTime period tolerableDelay dpc created r,
      keSetCoalescableTimer timer t' dueTime period tolerableDelay dpc created = some (timer', r) →
      (timer'.timers t).threadpoolTimer = (timer.timers t).threadpoolTimer ∨
        some t' = some t ∧ (timer.timers t).threadpoolTimer = none := by
    intro t' dueTime period tolerableDelay dpc created r hr
    by_cases ht : t = t'
    · subst ht
      rcases keSetCoalescableTimer_cases hr with ⟨tp, htp, rfl⟩ | ⟨tp, hnone, -, -⟩
      · left
        simp [State.start, htp]
      · exact .inr ⟨rfl, hnone⟩
    · left
      rcases keSetCoalescableTimer_cases hr with ⟨tp, -, rfl⟩ | ⟨tp, -, -, rfl⟩ <;>
        simp [State.start, ht]
  cases a with
  | keSetTimer t' dueTime dpc created =>
    obtain ⟨⟨_, r⟩, hr, rfl⟩ := Option.map_eq_some_iff.mp h
    exact (hset _ _ _ _ _ _ _ hr).imp_right .inr
  | keSetTimerEx t' dueTime period dpc created =>
    obtain ⟨⟨_, r⟩, hr, rfl⟩ := Option.map_eq_some_iff.mp h
    exact (hset _ _ _ _ _ _ _ hr).imp_right .inr
  | keSetCoalescableTimer t' dueTime period tolerableDelay dpc created =>
    obtain ⟨⟨_, r⟩, hr, rfl⟩ := Option.map_eq_some_iff.mp h
    exact (hset _ _ _ _ _ _ _ hr).imp_right .inr
  | keCancelTimer t' =>
    by_cases ht : t = t'
    · subst ht
      exact .inr (.inl ⟨rfl, threadpoolTimer_cancel h⟩)
    · left
      obtain ⟨⟨_, r⟩, hr, rfl⟩ := Option.map_eq_some_iff.mp h
      simp only [keCancelTimer] at hr
      repeat' split at hr
      all_goals cases hr
      all_goals simp [ht]
  | keReadStateTimer t' =>
    obtain ⟨r, -, rfl⟩ := Option.map_eq_some_iff.mp h
    exact .inl rfl
  | elapse tp =>
    obtain ⟨o, -, ho⟩ := Option.bind_eq_some_iff.mp h
    split at ho
    · cases ho
      exact .inl rfl
    · cases ho
  | callback tp place =>
    obtain ⟨o, -, ho⟩ := Option.bind_eq_some_iff.mp h
    obtain ⟨setting, -, ho⟩ := Option.bind_eq_some_iff.mp ho
    obtain ⟨r, hr, rfl⟩ := Option.map_eq_some_iff.mp ho
    left
    simp only [usersimTimerCallback] at hr
    split at hr
    · cases hr
      by_cases ht : t = o.context
      · subst ht
        simp
      · simp [ht]
    · cases hr

/-- Every callback that starts is accounted for. -/
theorem inserted_step {a : Timer.Action} (h : Timer.step timer a = some timer') :
    timer'.inserted = timer.inserted ++ (begun timer a).map Callback.dpc := by
  have hset : ∀ t' dueTime period tolerableDelay dpc created r,
      keSetCoalescableTimer timer t' dueTime period tolerableDelay dpc created = some (timer', r) →
      timer'.inserted = timer.inserted := by
    intro t' dueTime period tolerableDelay dpc created r hr
    rcases keSetCoalescableTimer_cases hr with ⟨tp, -, rfl⟩ | ⟨tp, -, -, rfl⟩ <;> rfl
  cases a with
  | keSetTimer t' dueTime dpc created =>
    obtain ⟨⟨_, r⟩, hr, rfl⟩ := Option.map_eq_some_iff.mp h
    simpa [begun] using hset _ _ _ _ _ _ _ hr
  | keSetTimerEx t' dueTime period dpc created =>
    obtain ⟨⟨_, r⟩, hr, rfl⟩ := Option.map_eq_some_iff.mp h
    simpa [begun] using hset _ _ _ _ _ _ _ hr
  | keSetCoalescableTimer t' dueTime period tolerableDelay dpc created =>
    obtain ⟨⟨_, r⟩, hr, rfl⟩ := Option.map_eq_some_iff.mp h
    simpa [begun] using hset _ _ _ _ _ _ _ hr
  | keCancelTimer t' =>
    obtain ⟨⟨_, r⟩, hr, rfl⟩ := Option.map_eq_some_iff.mp h
    simp only [keCancelTimer] at hr
    repeat' split at hr
    all_goals cases hr
    all_goals simp [begun]
  | keReadStateTimer t' =>
    obtain ⟨r, -, rfl⟩ := Option.map_eq_some_iff.mp h
    simp [begun]
  | elapse tp =>
    obtain ⟨o, -, ho⟩ := Option.bind_eq_some_iff.mp h
    split at ho
    · cases ho
      simp [begun]
    · cases ho
  | callback tp place =>
    obtain ⟨o, hos, ho⟩ := Option.bind_eq_some_iff.mp h
    obtain ⟨setting, -, ho⟩ := Option.bind_eq_some_iff.mp ho
    obtain ⟨r, hr, rfl⟩ := Option.map_eq_some_iff.mp ho
    simp only [usersimTimerCallback] at hr
    split at hr
    · cases hr
      simp only [begun, hos, List.map_map]
      rw [show Callback.dpc ∘ _ = id from rfl, List.map_id]
    · cases hr

/-! ## What a DPC action does to the log -/

theorem log_suffix {a : Dpc.Action} {dpc dpc' : Dpc.State} (he : Dpc.Effect n dpc q a dpc' q') :
    dpc.log <:+ dpc'.log := by
  cases he <;> first | exact List.suffix_refl _ | exact List.suffix_cons ..

theorem nextTicket_le {a : Dpc.Action} {dpc dpc' : Dpc.State}
    (he : Dpc.Effect n dpc q a dpc' q') : dpc.nextTicket ≤ dpc'.nextTicket := by
  cases he <;> first | exact le_rfl | exact Nat.le_succ _

/-- Every insert is on a CPU that exists. -/
def CpusExist (n : Nat) (log : List Dpc.Event) : Prop :=
  ∀ u d i c a b, .inserted u d i c a b ∈ log → i < n

theorem cpusExist_step {a : Dpc.Action} {dpc dpc' : Dpc.State} (h : CpusExist n dpc.log)
    (he : Dpc.Effect n dpc q a dpc' q') : CpusExist n dpc'.log := by
  intro u d i c p1 p2 hu
  cases he with
  | inserted hn _ =>
    rcases List.mem_cons.mp hu with heq | hu
    · cases heq
      exact hn
    · exact h u d i c p1 p2 hu
  | insertRefused _ | removeRefused _ | removed _ | popEntry _ _ | workerCall _ | workerReturn _
  | flushLeave _ _ _ _ => exact h u d i c p1 p2 (Dpc.mem_of_cons hu nofun)
  | _ => exact h u d i c p1 p2 hu

/-- After an insert, whether it was accepted or not, the DPC is in a queue. -/
theorem queued_of_insert {d : Dpc.DpcId} {p1 p2 : Ptr} {dpc dpc' : Dpc.State}
    (he : Dpc.Effect n dpc q (.keInsertQueueDpc d p1 p2) dpc' q') : ∃ i, .entry d ∈ q' i := by
  cases he with
  | insertRefused hd => exact ⟨_, hd⟩
  | inserted _ _ => exact ⟨dpc.cpuOf d, by simp⟩

/-! ## The invariant -/

/-- The insert that an expiry was passed on to had not been taken from the queue then. -/
structure Waited (log : List Dpc.Event) (x : Expiry) : Prop where
  earlier : x.log <:+ log
  inserted : ∃ item : Dpc.WorkItem, ∃ i, item.dpc = x.dpc ∧ item.ticket = x.ticket ∧
    item.insertion i ∈ x.log
  removed : .removed x.ticket ∉ x.log
  executed : Dpc.executions x.ticket x.log = []

structure Inv (n : Nat) (s : State) (q : Dpc.Queues) : Prop where
  timer : Timer.Inv s.timer
  rep : s.dpc.Rep q
  account : Dpc.Account s.dpc q
  owned : Dpc.MarkerOwned s.dpc q
  barrier : Dpc.Barrier s.dpc q
  cpus : CpusExist n s.dpc.log
  /-- A callback that runs is one of the thread pool timer that its timer has. -/
  current : ∀ c ∈ s.callbacks, (s.timer.timers c.timer).threadpoolTimer = some c.threadpoolTimer
  counted : (s.expiries.map Expiry.dpc ++ s.callbacks.map Callback.dpc).Perm s.timer.inserted
  waited : ∀ x ∈ s.expiries, Waited s.dpc.log x

theorem inv_init (dpcs : Dpc.DpcId → Dpc.Kdpc) : Inv n (State.init dpcs) fun _ => [] where
  timer := Timer.inv_init
  rep := Dpc.rep_init dpcs
  account := Dpc.account_init dpcs
  owned := Dpc.markerOwned_init dpcs
  barrier := Dpc.barrier_init dpcs
  cpus := fun _ _ _ _ _ _ h => absurd h List.not_mem_nil
  current := fun _ h => absurd h List.not_mem_nil
  counted := List.Perm.nil
  waited := fun _ h => absurd h List.not_mem_nil

theorem Waited.mono {log log' : List Dpc.Event} {x : Expiry} (h : Waited log x)
    (hlog : log <:+ log') : Waited log' x :=
  ⟨h.earlier.trans hlog, h.inserted, h.removed, h.executed⟩

/-- A DPC action of any thread. -/
theorem Inv.dpc {a : Dpc.Action} {dpc : Dpc.State} (h : Inv n s q) (ha : Dpc.OneFlush n s.dpc a)
    (hs : Dpc.step n s.dpc a = some dpc) :
    ∃ q', Dpc.Effect n s.dpc q a dpc q' ∧ Inv n { s with dpc := dpc } q' := by
  obtain ⟨q', he, hr⟩ := Dpc.step_effect h.rep ha.1 (ha.markerFree h.owned h.rep hs) hs
  have hlog := log_suffix he
  exact ⟨q', he, h.timer, hr, Dpc.account_step h.account h.rep he, h.owned.step ha he,
    Dpc.barrier_step h.barrier h.account h.rep he, cpusExist_step h.cpus he, h.current, h.counted,
    fun x hx => (h.waited x hx).mono hlog⟩

/-- A callback reads a parameter. -/
theorem Inv.read {place : Nat} {c c' : Callback} (h : Inv n s q) (hc : s.callbacks[place]? = some c)
    (htimer : c'.timer = c.timer) (htp : c'.threadpoolTimer = c.threadpoolTimer)
    (hdpc : c'.dpc = c.dpc) : Inv n { s with callbacks := s.callbacks.set place c' } q := by
  obtain ⟨hplace, hget⟩ := List.getElem?_eq_some_iff.mp hc
  refine { h with current := fun x hx => ?_, counted := ?_ }
  · rcases List.mem_or_eq_of_mem_set hx with hx | rfl
    · exact h.current x hx
    · rw [htimer, htp]
      exact h.current c (hget ▸ List.getElem_mem hplace)
  · have hmap : (s.callbacks.set place c').map Callback.dpc = s.callbacks.map Callback.dpc := by
      have hplace' : place < (s.callbacks.map Callback.dpc).length := by simpa using hplace
      rw [List.map_set, hdpc, ← hget]
      have hself := List.set_getElem_self hplace'
      rw [List.getElem_map] at hself
      exact hself
    show (s.expiries.map Expiry.dpc ++ (s.callbacks.set place c').map Callback.dpc).Perm _
    rw [hmap]
    exact h.counted

/-- The callback that starts is of the thread pool timer that its timer has. -/
theorem mem_begun {a : Timer.Action} {c : Callback} (h : Timer.Inv timer)
    (hc : c ∈ begun timer a) : (timer.timers c.timer).threadpoolTimer = some c.threadpoolTimer := by
  cases a with
  | callback tp place =>
    simp only [begun] at hc
    split at hc
    · next o ho =>
      obtain ⟨d, -, rfl⟩ := List.mem_map.mp hc
      exact h.owned tp o ho
    · cases hc
  | _ => cases hc

theorem begun_cancel : begun timer (.keCancelTimer t) = [] := rfl

theorem Inv.timerStep {a : Timer.Action} (h : Inv n s q) (ha : Timer.Admissible s.timer a)
    (hs : step n s (.timer a) = some s') : Inv n s' q := by
  simp only [step] at hs
  split at hs
  · next hwaits =>
    obtain ⟨timer, htimer, rfl⟩ := Option.map_eq_some_iff.mp hs
    refine { h with timer := Timer.inv_step h.timer ha htimer, current := fun c hc => ?_
                    counted := ?_ }
    · have hold : (s.timer.timers c.timer).threadpoolTimer = some c.threadpoolTimer := by
        rcases List.mem_append.mp hc with hc | hc
        · exact mem_begun h.timer hc
        · exact h.current c hc
      rcases threadpoolTimer_step htimer c.timer with heq | ⟨rfl, -⟩ | ⟨-, hnone⟩
      · exact heq.trans hold
      · -- a cancel waits for the callbacks of the timer
        rw [begun_cancel, List.nil_append] at hc
        have hmem : c ∈ waitsFor s (.keCancelTimer c.timer) :=
          List.mem_filter.mpr ⟨hc, by simpa using hold⟩
        rw [hwaits] at hmem
        cases hmem
      · rw [hnone] at hold
        cases hold
    · rw [inserted_step htimer]
      show (s.expiries.map Expiry.dpc ++ (begun s.timer a ++ s.callbacks).map Callback.dpc).Perm _
      rw [List.map_append]
      refine List.Perm.trans ?_ (h.counted.append_right _)
      rw [List.append_assoc]
      exact List.perm_append_comm.append_left _
  · cases hs

/-- A callback queues its DPC and returns. -/
theorem Inv.insert {place : Nat} (h : Inv n s q)
    (hs : step n s (.keInsertQueueDpc place) = some s') :
    ∃ q', Inv n s' q' := by
  obtain ⟨c, hc, hs⟩ := Option.bind_eq_some_iff.mp hs
  obtain ⟨p1, -, hs⟩ := Option.bind_eq_some_iff.mp hs
  obtain ⟨p2, -, hs⟩ := Option.bind_eq_some_iff.mp hs
  obtain ⟨dpc, hdpc, rfl⟩ := Option.map_eq_some_iff.mp hs
  obtain ⟨hplace, hget⟩ := List.getElem?_eq_some_iff.mp hc
  have hone : Dpc.OneFlush n s.dpc (.keInsertQueueDpc c.dpc p1 p2) := ⟨trivial, trivial⟩
  obtain ⟨q', he, hinv⟩ := h.dpc hone hdpc
  refine ⟨q', { hinv with current := fun x hx => ?_, counted := ?_, waited := fun x hx => ?_ }⟩
  · exact h.current x (List.mem_of_mem_eraseIdx hx)
  · refine List.Perm.trans ?_ h.counted
    have hperm := (List.getElem_cons_eraseIdx_perm hplace).map Callback.dpc
    rw [hget, List.map_cons] at hperm
    exact (List.perm_middle.symm.trans (hperm.append_left _))
  · rcases List.mem_cons.mp hx with rfl | hx
    · obtain ⟨i, hi⟩ := queued_of_insert he
      have hcounts := hinv.account.queued_counts hi
      have hinserted := hinv.account.queued_inserted i c.dpc hi
      refine ⟨List.suffix_refl _, ⟨_, i, rfl, rfl, hinserted⟩, List.count_eq_zero.mp hcounts.1,
        hinv.account.executions_nil hinserted fun hx => ?_⟩
      exact hinv.account.queued_not_executed (Dpc.mem_tickets.mpr ⟨c.dpc, hi, rfl⟩)
        (List.mem_append_right _ hx)
    · exact hinv.waited x hx

theorem inv_step {a : Action} (h : Inv n s q) (ha : Permitted n s a) (hs : step n s a = some s') :
    ∃ q', Inv n s' q' := by
  cases a with
  | timer a => exact ⟨q, h.timerStep ha hs⟩
  | dpc a =>
    obtain ⟨dpc, hdpc, rfl⟩ := Option.map_eq_some_iff.mp hs
    obtain ⟨q', -, hinv⟩ := h.dpc ha hdpc
    exact ⟨q', hinv⟩
  | readParameter1 place =>
    obtain ⟨c, hc, hs⟩ := Option.bind_eq_some_iff.mp hs
    split at hs
    · cases hs
      exact ⟨q, h.read hc rfl rfl rfl⟩
    · cases hs
  | readParameter2 place =>
    obtain ⟨c, hc, hs⟩ := Option.bind_eq_some_iff.mp hs
    split at hs
    · cases hs
      exact ⟨q, h.read hc rfl rfl rfl⟩
    · cases hs
  | keInsertQueueDpc place => exact h.insert hs

theorem inv_exec {run : List Action} (h : ∃ q, Inv n s q)
    (hg : Guarded (step n) (Permitted n) s run)
    (hs : exec (step n) s run = some s') : ∃ q, Inv n s' q := by
  refine exec_invariant_of_guard (P := fun s => ∃ q, Inv n s q) ?_ h hg hs
  rintro s a s' ⟨q, h⟩ ha hs
  exact inv_step h ha hs

/-! ## No expiry is lost -/

/-- An expiry whose callback has returned: its insert had neither been removed nor executed by then,
and since then it is conserved. -/
structure PassedOn (s : State) (q : Dpc.Queues) (x : Expiry) : Prop where
  waited : Waited s.dpc.log x
  situation : ∃ item : Dpc.WorkItem, ∃ i, item.dpc = x.dpc ∧ item.ticket = x.ticket ∧
    Dpc.Situation s.dpc q item i

/-- A timer that expires twice before the worker comes to its DPC, and again while the routine
runs. -/
def expiresThrice : List Action :=
  [.timer (.keSetTimerEx 5 (-1) 10 (some 3) (some 40)), .timer (.elapse 40), .timer (.elapse 40),
    .timer (.callback 40 0), .timer (.callback 40 0), .readParameter1 0, .readParameter2 0,
    .keInsertQueueDpc 0, .readParameter2 0, .readParameter1 0, .keInsertQueueDpc 0,
    .timer (.elapse 40), .dpc (.workerPop 0), .dpc (.workerCall 0), .timer (.callback 40 0),
    .readParameter1 0, .readParameter2 0, .keInsertQueueDpc 0, .dpc (.workerReturn 0)]

/-- The timer is not set, and its expiries were passed on to inserts before number `m`. -/
structure Stopped (t : TimerId) (m : Nat) (s : State) : Prop where
  handle : (s.timer.timers t).threadpoolTimer = none
  expiries : ∀ x ∈ s.expiries, x.timer = t → x.ticket < m

theorem Inv.not_running (h : Inv n s q) (ht : (s.timer.timers t).threadpoolTimer = none)
    {c : Callback} (hc : c ∈ s.callbacks) : c.timer ≠ t := by
  rintro rfl
  have hcurrent := h.current c hc
  rw [ht] at hcurrent
  cases hcurrent

theorem stopped_step {a : Action} (h : Inv n s q) (hstopped : Stopped t m s) (ha : a.sets ≠ some t)
    (hs : step n s a = some s') : Stopped t m s' := by
  cases a with
  | timer a =>
    simp only [step] at hs
    split at hs
    · obtain ⟨timer, htimer, rfl⟩ := Option.map_eq_some_iff.mp hs
      refine ⟨?_, hstopped.expiries⟩
      rcases threadpoolTimer_step htimer t with heq | ⟨-, hnone⟩ | ⟨hset, -⟩
      · exact heq.trans hstopped.handle
      · exact hnone
      · exact absurd hset ha
    · cases hs
  | dpc a =>
    obtain ⟨dpc, -, rfl⟩ := Option.map_eq_some_iff.mp hs
    exact ⟨hstopped.handle, hstopped.expiries⟩
  | readParameter1 place =>
    obtain ⟨c, -, hs⟩ := Option.bind_eq_some_iff.mp hs
    split at hs
    · cases hs
      exact ⟨hstopped.handle, hstopped.expiries⟩
    · cases hs
  | readParameter2 place =>
    obtain ⟨c, -, hs⟩ := Option.bind_eq_some_iff.mp hs
    split at hs
    · cases hs
      exact ⟨hstopped.handle, hstopped.expiries⟩
    · cases hs
  | keInsertQueueDpc place =>
    obtain ⟨c, hc, hs⟩ := Option.bind_eq_some_iff.mp hs
    obtain ⟨p1, -, hs⟩ := Option.bind_eq_some_iff.mp hs
    obtain ⟨p2, -, hs⟩ := Option.bind_eq_some_iff.mp hs
    obtain ⟨dpc, -, rfl⟩ := Option.map_eq_some_iff.mp hs
    refine ⟨hstopped.handle, fun x hx ht => ?_⟩
    rcases List.mem_cons.mp hx with rfl | hx
    · exact absurd ht (h.not_running hstopped.handle (List.mem_of_getElem? hc))
    · exact hstopped.expiries x hx ht

/-- The queue of a CPU was flushed by a flush that waits for all inserts before number `m`. -/
def FlushedSince (m : Nat) (log : List Dpc.Event) (i : Dpc.Cpu) : Prop :=
  ∃ since, m ≤ since ∧ .flushed i since ∈ log

/-- A flush that started when `m` inserts had been made. -/
structure Flushing (u : Tid) (m : Nat) (dpc : Dpc.State) : Prop where
  under_way : u ∈ dpc.flushers
  behind : ∀ i < (dpc.flush u).cpu, FlushedSince m dpc.log i
  here : ∀ since, (dpc.flush u).since = some since → m ≤ since

theorem FlushedSince.mono {log log' : List Dpc.Event} {i : Dpc.Cpu} (h : FlushedSince m log i)
    (hlog : log <:+ log') : FlushedSince m log' i :=
  h.imp fun _ hs => ⟨hs.1, hlog.subset hs.2⟩

theorem Flushing.of_flush {dpc : Dpc.State} {f : Dpc.Flush} (hu : u ∈ dpc.flushers)
    (hflush : dpc.flush u = f) (hbehind : ∀ i < f.cpu, FlushedSince m dpc.log i)
    (hhere : ∀ since, f.since = some since → m ≤ since) : Flushing u m dpc :=
  ⟨hu, hflush.symm ▸ hbehind, hflush.symm ▸ hhere⟩

theorem flushed_of_end {dpc dpc' : Dpc.State} (h : Flushing u m dpc)
    (hs : Dpc.step n dpc (.flushEnd u) = some dpc') : ∀ i < n, FlushedSince m dpc'.log i := by
  simp only [Dpc.step] at hs
  split at hs
  · next hend =>
    cases hs
    exact fun i hi => h.behind i (hend.2.2 ▸ hi)
  · cases hs

/-- A flush goes on, or has been at every queue. -/
theorem flushing_step {a : Dpc.Action} {dpc dpc' : Dpc.State} (h : Flushing u m dpc)
    (hm : m ≤ dpc.nextTicket) (hrunning : ∀ i, dpc.terminate i = false)
    (he : Dpc.Effect n dpc q a dpc' q') (hs : Dpc.step n dpc a = some dpc') :
    Flushing u m dpc' ∨ ∀ i < n, FlushedSince m dpc'.log i := by
  have hlog := log_suffix he
  -- an action that is not a flush of this thread
  have hkeep : u ∈ dpc'.flushers → dpc'.flush u = dpc.flush u → Flushing u m dpc' :=
    fun hu hflush => .of_flush hu hflush (fun i hi => (h.behind i hi).mono hlog) h.here
  cases he with
  | @flushStart v hv =>
    have hne : u ≠ v := by
      rintro rfl
      exact hv h.under_way
    exact .inl (hkeep (List.mem_cons_of_mem _ h.under_way) (Function.update_of_ne hne ..))
  | @flushEnter v L hv hsince hmarker =>
    by_cases hne : u = v
    · subst hne
      refine .inl (.of_flush hv (Function.update_self ..) h.behind fun since hsome => ?_)
      obtain rfl := Option.some.inj hsome
      exact hm
    · exact .inl (hkeep h.under_way (Function.update_of_ne hne ..))
  | @flushLeave v since hv hsince hmarker hterm =>
    by_cases hne : u = v
    · subst hne
      refine .inl (.of_flush hv (Function.update_self ..) (fun i hi => ?_) nofun)
      rcases Nat.lt_succ_iff_lt_or_eq.mp hi with hi | rfl
      · exact (h.behind i hi).mono hlog
      · exact ⟨since, h.here since hsince, List.mem_cons_self ..⟩
    · exact .inl (hkeep h.under_way (Function.update_of_ne hne ..))
  | flushAbandon hv hterm =>
    rw [hrunning] at hterm
    cases hterm
  | @flushEnd v hv hsince =>
    by_cases hne : u = v
    · subst hne
      exact .inr (flushed_of_end h hs)
    · exact .inl (hkeep ((List.mem_erase_of_ne hne).mpr h.under_way) rfl)
  | _ => exact .inl (hkeep h.under_way rfl)

/-- What a step does to the DPCs is one of their own steps, if anything. -/
theorem step_dpc {a : Action} (ha : Permitted n s a) (hs : step n s a = some s') :
    s'.dpc = s.dpc ∨
      ∃ b, Dpc.OneFlush n s.dpc b ∧ Dpc.step n s.dpc b = some s'.dpc := by
  cases a with
  | timer a =>
    simp only [step] at hs
    split at hs
    · obtain ⟨timer, -, rfl⟩ := Option.map_eq_some_iff.mp hs
      exact .inl rfl
    · cases hs
  | dpc a =>
    obtain ⟨dpc, hdpc, rfl⟩ := Option.map_eq_some_iff.mp hs
    exact .inr ⟨a, ha, hdpc⟩
  | readParameter1 place =>
    obtain ⟨c, -, hs⟩ := Option.bind_eq_some_iff.mp hs
    split at hs
    · cases hs
      exact .inl rfl
    · cases hs
  | readParameter2 place =>
    obtain ⟨c, -, hs⟩ := Option.bind_eq_some_iff.mp hs
    split at hs
    · cases hs
      exact .inl rfl
    · cases hs
  | keInsertQueueDpc place =>
    obtain ⟨c, -, hs⟩ := Option.bind_eq_some_iff.mp hs
    obtain ⟨p1, -, hs⟩ := Option.bind_eq_some_iff.mp hs
    obtain ⟨p2, -, hs⟩ := Option.bind_eq_some_iff.mp hs
    obtain ⟨dpc, hdpc, rfl⟩ := Option.map_eq_some_iff.mp hs
    exact .inr ⟨.keInsertQueueDpc c.dpc p1 p2, ⟨trivial, trivial⟩, hdpc⟩

/-- A flush of thread `u` that started after `m` inserts is under way or has ended. -/
structure FlushStarted (n : Nat) (u : Tid) (m : Nat) (dpc : Dpc.State) : Prop where
  known : m ≤ dpc.nextTicket
  progress : Flushing u m dpc ∨ ∀ i < n, FlushedSince m dpc.log i

theorem flushStarted_step {a : Action} (h : Inv n s q) (hf : FlushStarted n u m s.dpc)
    (ha : Permitted n s a) (hs : step n s a = some s') : FlushStarted n u m s'.dpc := by
  rcases step_dpc ha hs with heq | ⟨b, hb, hdpc⟩
  · rw [heq]
    exact hf
  · obtain ⟨q', he, -⟩ := h.dpc hb hdpc
    refine ⟨hf.known.trans (nextTicket_le he), ?_⟩
    rcases hf.progress with hflush | hall
    · exact flushing_step hflush hf.known h.owned.running he hdpc
    · exact .inr fun i hi => (hall i hi).mono (log_suffix he)

/-- From `KeFlushQueuedDpcs` on, the inserts up to then are waited for. -/
theorem flushStarted_start (hs : step n s (.dpc (.flushStart u)) = some s') :
    FlushStarted n u s.dpc.nextTicket s'.dpc ∧ s'.timer = s.timer ∧ s'.expiries = s.expiries := by
  obtain ⟨dpc, hdpc, rfl⟩ := Option.map_eq_some_iff.mp hs
  simp only [Dpc.step] at hdpc
  split at hdpc
  · cases hdpc
  · cases hdpc
    refine ⟨⟨le_rfl, .inl ?_⟩, rfl, rfl⟩
    refine .of_flush (List.mem_cons_self ..) (Function.update_self ..)
      (fun i hi => ?_) (fun _ h => ?_)
    · exact absurd hi (Nat.not_lt_zero i)
    · cases h

/-- All expiries so far were passed on to inserts so far. -/
theorem Inv.stopped (h : Inv n s q) (hnone : (s.timer.timers t).threadpoolTimer = none) :
    Stopped t s.dpc.nextTicket s := by
  refine ⟨hnone, fun x hx _ => ?_⟩
  have hwaited := h.waited x hx
  obtain ⟨item, i, -, hticket, hinserted⟩ := hwaited.inserted
  rw [← hticket]
  exact h.account.inserted_lt _ _ _ _ _ _ (hwaited.earlier.subset hinserted)

/-- Nothing is left of a timer. -/
structure Quiesced (s : State) (t : TimerId) : Prop where
  running : ∀ c ∈ s.callbacks, c.timer ≠ t
  elapsing : ∀ tp o, s.timer.os tp = some o → o.context ≠ t
  /-- What its expiries were passed on to has been removed, or its routine has returned. -/
  done : ∀ x ∈ s.expiries, x.timer = t → Dpc.Done s.dpc.log x.ticket

theorem Inv.quiesced (h : Inv n s q) (hstopped : Stopped t m s)
    (hflushed : ∀ i < n, FlushedSince m s.dpc.log i) : Quiesced s t := by
  refine ⟨fun c hc => h.not_running hstopped.handle hc, fun tp o ho ht => ?_, fun x hx ht => ?_⟩
  · have hlive := h.timer.owned tp o ho
    rw [ht, hstopped.handle] at hlive
    cases hlive
  · have hwaited := h.waited x hx
    obtain ⟨item, i, -, hticket, hinserted⟩ := hwaited.inserted
    have hlog := hwaited.earlier.subset hinserted
    obtain ⟨since, hle, hlast⟩ := hflushed i (h.cpus _ _ _ _ _ _ hlog)
    rw [← hticket]
    refine h.barrier.flushed i since hlast _ _ _ _ _ hlog ?_
    exact (hticket ▸ hstopped.expiries x hx ht).trans_le hle

/-- A run in which the timer is not set. -/
theorem stopped_exec {run : List Action} (h : ∃ q, Inv n s q) (hstopped : Stopped t m s)
    (hg : Guarded (step n) (Permitted n) s run) (hset : ∀ a ∈ run, a.sets ≠ some t)
    (hs : exec (step n) s run = some s') : (∃ q, Inv n s' q) ∧ Stopped t m s' := by
  refine exec_invariant_of_guard (P := fun s => (∃ q, Inv n s q) ∧ Stopped t m s)
    (G := fun s a => Permitted n s a ∧ a.sets ≠ some t) ?_ ⟨h, hstopped⟩
    (guarded_and.mpr ⟨hg, guarded_of_mem hset⟩) hs
  rintro s a s' ⟨⟨q, h⟩, hstopped⟩ ⟨ha, hset⟩ hs
  exact ⟨inv_step h ha hs, stopped_step h hstopped hset hs⟩

theorem flushStarted_exec {run : List Action} (h : ∃ q, Inv n s q)
    (hf : FlushStarted n u m s.dpc) (hg : Guarded (step n) (Permitted n) s run)
    (hs : exec (step n) s run = some s') : FlushStarted n u m s'.dpc := by
  refine (exec_invariant_of_guard (P := fun s => (∃ q, Inv n s q) ∧ FlushStarted n u m s.dpc) ?_
    ⟨h, hf⟩ hg hs).2
  rintro s a s' ⟨⟨q, h⟩, hf⟩ ha hs
  exact ⟨inv_step h ha hs, flushStarted_step h hf ha hs⟩

theorem flushed_exec {run : List Action} (h : ∃ q, Inv n s q)
    (hflushed : ∀ i < n, FlushedSince m s.dpc.log i) (hg : Guarded (step n) (Permitted n) s run)
    (hs : exec (step n) s run = some s') : ∀ i < n, FlushedSince m s'.dpc.log i := by
  refine (exec_invariant_of_guard
    (P := fun s => (∃ q, Inv n s q) ∧ ∀ i < n, FlushedSince m s.dpc.log i) ?_ ⟨h, hflushed⟩ hg hs).2
  rintro s a s' ⟨⟨q, h⟩, hflushed⟩ ha hs
  refine ⟨inv_step h ha hs, fun i hi => ?_⟩
  rcases step_dpc ha hs with heq | ⟨b, hb, hdpc⟩
  · rw [heq]
    exact hflushed i hi
  · obtain ⟨q', he, -⟩ := h.dpc hb hdpc
    exact (hflushed i hi).mono (log_suffix he)

/-- A cancel that finds one callback elapsed and one that has just returned, and a flush during
which another timer expires. -/
def cancelAndFlush : List Action × List Action × List Action × List Action :=
  ([.timer (.keSetTimerEx 5 (-1) 10 (some 3) (some 40)),
    .timer (.keSetTimer 6 (-1) (some 4) (some 41)),
      .timer (.elapse 40), .timer (.elapse 40), .timer (.callback 40 0), .readParameter1 0,
      .readParameter2 0, .keInsertQueueDpc 0],
    [.timer (.elapse 41)],
    [.dpc (.flushEnter 8), .timer (.callback 41 0), .dpc (.workerPop 0), .dpc (.workerCall 0),
      .dpc (.workerReturn 0), .dpc (.workerPop 0), .dpc (.flushLeave 8)],
    [.readParameter1 0, .readParameter2 0, .keInsertQueueDpc 0])

end Usersim.Timer.Delivery
