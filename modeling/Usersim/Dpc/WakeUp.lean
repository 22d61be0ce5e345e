import Usersim.Dpc.Shutdown
import Usersim.Lib.Condition

/-!
# The condition variables of the queues (`ke.cpp`)

Every queue has one condition variable. Its worker sleeps on it while there is nothing to pop, and a
thread in `flush_queue` until the worker has popped the marker. An insert notifies it, and so do
`flush_queue`, for the worker, and the worker, for the threads that flush; the destructor does so
after it has given up the mutex. In `step` all of them go on when their predicates are true.

* `dpc_waits_wake` — nobody sleeps for longer
-/

namespace Usersim.Dpc

open Lib Framework

inductive Waiter where
  | worker (i : Cpu)
  | flusher (t : Tid)
deriving DecidableEq, Repr

/-- The waits of the workers and of the threads that flush, on the variables of `n` queues. -/
def waits (n : Nat) : Condition.Waits State Action Waiter Cpu where
  step := step n
  waiting := fun s w =>
    match w with
    | .worker i => decide (i < n ∧ s.workers i = .ready)
    | .flusher t => decide (t ∈ s.flushers ∧ (s.flush t).since ≠ none)
  ready := fun s w =>
    match w with
    | .worker i => s.terminate i || !usersimListIsEmpty s.links (.head i)
    | .flusher t =>
      s.terminate (s.flush t).cpu || usersimListIsEmpty s.links (.flushEntry (s.flush t).cpu)
  condition := fun s w =>
    match w with
    | .worker i => i
    | .flusher t => (s.flush t).cpu
  mover := fun a =>
    match a with
    | .workerPop i | .workerExit i => some (.worker i)
    | .flushLeave t => some (.flusher t)
    | .keInitializeDpc .. | .keSetTargetProcessorDpc .. | .keInsertQueueDpc .. | .keRemoveQueueDpc _
    | .workerCall _ | .workerReturn _ | .flushStart _ | .flushEnter _ | .flushEnd _
    | .terminate _ => none
  notifies := fun s a k =>
    match a with
    | .keInsertQueueDpc d _ _ =>
      usersimListIsEmpty s.links (.entry d) && decide ((s.dpcs d).cpuId = k)
    | .workerPop i =>
      decide ((usersimListRemoveHeadEntry s.links (.head i)).2 = .flushEntry i ∧ i = k)
    | .flushEnter t => decide ((s.flush t).cpu = k)
    | .keInitializeDpc .. | .keSetTargetProcessorDpc .. | .keRemoveQueueDpc _ | .workerCall _
    | .workerReturn _ | .workerExit _ | .flushStart _ | .flushLeave _ | .flushEnd _
    | .terminate _ => false
  owes := fun _ a k =>
    match a with
    | .terminate i => decide (i = k)
    | .keInitializeDpc .. | .keSetTargetProcessorDpc .. | .keInsertQueueDpc .. | .keRemoveQueueDpc _
    | .workerPop _ | .workerCall _ | .workerReturn _ | .workerExit _ | .flushStart _ | .flushEnter _
    | .flushLeave _ | .flushEnd _ => false

variable {n : Nat} {s s' : State} {q q' : Queues} {a : Action} {i : Cpu} {t : Tid}

/-! ## Nobody else ends a wait -/

theorem Effect.worker_ready (h : Effect n s q a s' q') (hw : s.workers i = .ready)
    (hmover : (waits n).mover a ≠ some (.worker i)) : s'.workers i = .ready := by
  have hother : ∀ {j : Cpu} {w : Worker}, i ≠ j → Function.update s.workers j w i = .ready :=
    fun hij => (Function.update_of_ne hij ..).trans hw
  cases h with
  | @popEntry j =>
    exact hother fun hij => hmover (by rw [hij]; rfl)
  | workerCall hj => exact hother fun hij => by rw [← hij, hw] at hj; cases hj
  | workerReturn hj => exact hother fun hij => by rw [← hij, hw] at hj; cases hj
  | @workerExit j =>
    exact hother fun hij => hmover (by rw [hij]; rfl)
  | _ => exact hw

theorem Effect.flusher_waits (h : Effect n s q a s' q') (ht : t ∈ s.flushers)
    (hs : (s.flush t).since ≠ none) (hmover : (waits n).mover a ≠ some (.flusher t)) :
    t ∈ s'.flushers ∧ s'.flush t = s.flush t := by
  have hother : ∀ {u : Tid} {f : Flush}, t ≠ u → Function.update s.flush u f t = s.flush t :=
    fun htu => Function.update_of_ne htu ..
  cases h with
  | flushStart hu =>
    exact ⟨List.mem_cons_of_mem _ ht, hother fun htu => hu (htu ▸ ht)⟩
  | flushEnter _ hu => exact ⟨ht, hother fun htu => hs (htu ▸ hu)⟩
  | flushLeave => exact ⟨ht, hother fun htu => hmover (by rw [htu]; rfl)⟩
  | flushAbandon => exact ⟨ht, hother fun htu => hmover (by rw [htu]; rfl)⟩
  | @flushEnd u _ hu =>
    have htu : t ≠ u := fun htu => hs (htu ▸ hu)
    exact ⟨(List.mem_erase_of_ne htu).mpr ht, rfl⟩
  | _ => exact ⟨ht, rfl⟩

/-! ## Who ends the reason for a wait -/

/-- Only the destructor sets `terminate`. -/
theorem Effect.terminated (h : Effect n s q a s' q') (hbefore : s.terminate i = false)
    (hafter : s'.terminate i = true) : a = .terminate i := by
  cases h with
  | @terminate j =>
    by_cases hij : i = j
    · rw [hij]
    · have hsame : Function.update s.terminate j true i = s.terminate i :=
        Function.update_of_ne hij ..
      exact absurd (hbefore.symm.trans (hsame.symm.trans hafter)) Bool.false_ne_true
  | _ => exact absurd (hbefore.symm.trans hafter) Bool.false_ne_true

theorem Effect.filled (h : Effect n s q a s' q') (hbefore : q i = []) (hafter : q' i ≠ []) :
    (∃ d a1 a2, a = .keInsertQueueDpc d a1 a2 ∧ ¬ Queued s q d ∧ s.cpuOf d = i) ∨
      ∃ t, a = .flushEnter t ∧ (s.flush t).cpu = i := by
  -- what is not the queue that changes is empty still
  have hother : ∀ {j : Cpu} {l : List Cell}, Function.update q j l i ≠ [] → l ≠ [] ∧ i = j := by
    intro j l hne
    by_cases hij : i = j
    · subst hij
      rw [Function.update_self] at hne
      exact ⟨hne, rfl⟩
    · rw [Function.update_of_ne hij] at hne
      exact absurd hbefore hne
  cases h with
  | inserted _ hd => exact .inl ⟨_, _, _, rfl, hd, (hother hafter).2.symm⟩
  | removed hd =>
    obtain ⟨hne, rfl⟩ := hother hafter
    rw [hbefore] at hne
    exact absurd rfl hne
  | popMarker _ hq =>
    obtain ⟨-, rfl⟩ := hother hafter
    rw [hbefore] at hq
    cases hq
  | popEntry _ hq =>
    obtain ⟨-, rfl⟩ := hother hafter
    rw [hbefore] at hq
    cases hq
  | flushEnter => exact .inr ⟨_, rfl, (hother hafter).2.symm⟩
  | _ => exact absurd hbefore hafter

/-- A marker leaves its queue when the worker pops it. -/
theorem Effect.unmarked (h : Effect n s q a s' q') (hbefore : .flushEntry i ∈ q i)
    (hafter : .flushEntry i ∉ q' i) : a = .workerPop i ∧ ∃ l, q i = .flushEntry i :: l := by
  have hother : ∀ {j : Cpu} {l : List Cell}, .flushEntry i ∉ Function.update q j l i →
      .flushEntry i ∉ l ∧ i = j := by
    intro j l hnot
    by_cases hij : i = j
    · subst hij
      rw [Function.update_self] at hnot
      exact ⟨hnot, rfl⟩
    · rw [Function.update_of_ne hij] at hnot
      exact absurd hbefore hnot
  cases h with
  | inserted =>
    obtain ⟨hnot, rfl⟩ := hother hafter
    exact absurd (List.mem_append_left _ hbefore) hnot
  | removed =>
    obtain ⟨hnot, rfl⟩ := hother hafter
    exact absurd ((List.mem_erase_of_ne (by rintro ⟨⟩)).mpr hbefore) hnot
  | popMarker _ hq =>
    obtain ⟨-, rfl⟩ := hother hafter
    exact ⟨rfl, _, hq⟩
  | popEntry _ hq =>
    obtain ⟨hnot, rfl⟩ := hother hafter
    rw [hq] at hbefore
    rcases List.mem_cons.mp hbefore with h | h
    · cases h
    · exact absurd h hnot
  | flushEnter =>
    obtain ⟨hnot, rfl⟩ := hother hafter
    exact absurd (List.mem_append_left _ hbefore) hnot
  | _ => exact absurd hbefore hafter

/-! ## The variables -/

/-- Whoever leaves a wait has found the predicate true. -/
theorem mover_ready {w : Waiter} (hs : step n s a = some s') (hmover : (waits n).mover a = some w) :
    (waits n).ready s w = true := by
  cases a with
  | workerPop i =>
    cases hmover
    simp only [step, Option.ite_none_right_eq_some] at hs
    simp [waits, hs.1.2.2.2]
  | workerExit i =>
    cases hmover
    simp only [step, Option.ite_none_right_eq_some] at hs
    simp [waits, hs.1.2]
  | flushLeave t =>
    cases hmover
    simp only [step] at hs
    split at hs
    · rw [Option.ite_none_right_eq_some] at hs
      exact (Bool.or_eq_true _ _).mpr hs.1.2
    · cases hs
  | _ => cases hmover

theorem not_ready_worker (hq : s.Rep q) :
    (waits n).ready s (.worker i) = false ↔ q i = [] ∧ s.terminate i = false := by
  rw [← isEmpty_eq_true_iff (hq.ring i)]
  simp [waits, and_comm]

theorem not_ready_flusher (hq : s.Rep q) :
    (waits n).ready s (.flusher t) = false ↔
      .flushEntry (s.flush t).cpu ∈ q (s.flush t).cpu ∧ s.terminate (s.flush t).cpu = false := by
  have hmarker := not_congr (hq.isEmpty_marker (s.flush t).cpu)
  rw [not_not, Bool.not_eq_true] at hmarker
  rw [← hmarker]
  simp [waits, and_comm]

/-- An insert notifies, and so does a flush. -/
theorem Effect.signals_worker (h : Effect n s q a s' q') (hq : s.Rep q) (hbefore : q i = [])
    (hafter : q' i ≠ []) : (waits n).notifies s a i = true := by
  rcases h.filled hbefore hafter with ⟨d, a1, a2, rfl, hd, hi⟩ | ⟨t, rfl, hi⟩
  · exact (Bool.and_eq_true _ _).mpr ⟨(hq.isEmpty_entry d).mpr hd, decide_eq_true hi⟩
  · exact decide_eq_true hi

theorem Effect.signals_flusher (h : Effect n s q a s' q') (hq : s.Rep q)
    (hbefore : .flushEntry i ∈ q i) (hafter : .flushEntry i ∉ q' i) :
    (waits n).notifies s a i = true := by
  obtain ⟨rfl, l, hl⟩ := h.unmarked hbefore hafter
  have hring := hq.ring i
  rw [hl] at hring
  exact decide_eq_true ⟨congrArg Prod.snd (removeHeadEntry_eq hring), rfl⟩

theorem waits_notifies (n : Nat) :
    Condition.Notifies (waits n) (fun s => ∃ q, s.Rep q) (ApartFlush n) where
  keeps s a s' := by
    rintro ⟨q, hq⟩ ⟨ha, hm⟩ hs
    obtain ⟨q', -, hq'⟩ := step_effect hq ha hm hs
    exact ⟨q', hq'⟩
  stays s a s' w := by
    rintro ⟨q, hq⟩ ⟨ha, hm⟩ hs hw hmover
    obtain ⟨q', heffect, -⟩ := step_effect hq ha hm hs
    cases w with
    | worker i =>
      obtain ⟨hi, hready⟩ := of_decide_eq_true hw
      exact ⟨decide_eq_true ⟨hi, heffect.worker_ready hready hmover⟩, rfl⟩
    | flusher t =>
      obtain ⟨ht, hsince⟩ := of_decide_eq_true hw
      obtain ⟨ht', hflush⟩ := heffect.flusher_waits ht hsince hmover
      refine ⟨decide_eq_true ⟨ht', ?_⟩, congrArg Flush.cpu hflush⟩
      rw [hflush]
      exact hsince
  moves s a s' w hs hmover := mover_ready hs hmover
  signals s a s' w := by
    rintro ⟨q, hq⟩ ⟨ha, hm⟩ hs hw hmover hbefore hafter
    obtain ⟨q', heffect, hq'⟩ := step_effect hq ha hm hs
    rw [← Bool.not_eq_false] at hafter
    cases w with
    | worker i =>
      obtain ⟨hempty, hterm⟩ := (not_ready_worker hq).mp hbefore
      rw [not_ready_worker hq', not_and_or, Bool.not_eq_false] at hafter
      rcases hafter with hafter | hafter
      · exact .inl (heffect.signals_worker hq hempty hafter)
      · obtain rfl := heffect.terminated hterm hafter
        exact .inr (decide_eq_true rfl)
    | flusher t =>
      obtain ⟨ht, hsince⟩ := of_decide_eq_true hw
      obtain ⟨hmarked, hterm⟩ := (not_ready_flusher hq).mp hbefore
      rw [not_ready_flusher hq', (heffect.flusher_waits ht hsince hmover).2, not_and_or,
        Bool.not_eq_false] at hafter
      rcases hafter with hafter | hafter
      · exact .inl (heffect.signals_flusher hq hmarked hafter)
      · obtain rfl := heffect.terminated hterm hafter
        exact .inr (decide_eq_true rfl)

/--
No wake-up is lost. However workers and flushes fall asleep, wake up for no reason and are notified,
the queues go through critical sections that they can go through without condition variables. A
worker sleeps only while its queue is empty and a flush only while its marker is queued, unless the
queue terminates and its destructor has still to notify; and whatever could be done without the
variables can be done, at most after that.
-/
theorem dpc_waits_wake (n : Nat) (dpcs : DpcId → Kdpc)
    {bs : List (Condition.Act Action Waiter Cpu)} {m : Condition.Monitor State Waiter Cpu}
    (hg : Guarded (Condition.step (waits n)) (Condition.OnActs (ApartFlush n))
      (.init (.init dpcs)) bs)
    (hs : exec (Condition.step (waits n)) (.init (.init dpcs)) bs = some m) :
    exec (step n) (.init dpcs) (Condition.acts bs) = some m.state ∧
      (∃ q, m.state.Rep q ∧
        (∀ i, m.asleep (.worker i) = true →
          q i = [] ∧ m.state.terminate i = false ∨ m.owed i = true) ∧
        ∀ t, m.asleep (.flusher t) = true →
          .flushEntry (m.state.flush t).cpu ∈ q (m.state.flush t).cpu ∧
              m.state.terminate (m.state.flush t).cpu = false ∨
            m.owed (m.state.flush t).cpu = true) ∧
      (∀ i, m.owed i = true → m.state.terminate i = true) ∧
      ∀ a s, step n m.state a = some s →
        ∃ before m', (before = [] ∨ ∃ i, m.owed i = true ∧ before = [.notify i]) ∧
          exec (Condition.step (waits n)) m (before ++ [.act a]) = some m' ∧ m'.state = s := by
  have hinv := Condition.inv_exec (waits_notifies n) (Condition.inv_init ⟨_, rep_init dpcs⟩) hg hs
  obtain ⟨q, hq⟩ := hinv.holds
  have hasleep : ∀ w, m.asleep w = true →
      (waits n).ready m.state w = false ∨ m.owed ((waits n).condition m.state w) = true := by
    intro w hw
    cases hready : (waits n).ready m.state w with
    | false => exact .inl rfl
    | true => exact .inr (hinv.owed w hw hready)
  refine ⟨Condition.exec_acts hs, ⟨q, hq, fun i hi => ?_, fun t ht => ?_⟩, fun i => ?_,
    fun a s ha => Condition.exists_exec_act (waits_notifies n) hinv ha⟩
  · exact (hasleep _ hi).imp_left (not_ready_worker hq).mp
  · exact (hasleep _ ht).imp_left (not_ready_flusher hq).mp
  · refine Condition.owed_exec (W := waits n) (Q := fun s i => s.terminate i = true) ?_ ?_ ?_ hs i
    · intro s a s' k hs howes
      cases a with
      | terminate j =>
        obtain rfl := of_decide_eq_true howes
        cases hs
        exact Function.update_self ..
      | _ => cases howes
    · exact fun s a s' k hs => (step_move hs k).1
    · exact fun k hk => by cases hk

/-- The worker falls asleep, an insert wakes it, a flush falls asleep, and the queue terminates. -/
def sleeps : List (Condition.Act Action Waiter Cpu) :=
  [.test (.worker 0), .act (.keInsertQueueDpc 0 1 2), .act (.workerPop 0), .act (.flushStart 5),
    .act (.flushEnter 5), .test (.flusher 5), .act (.workerCall 0), .act (.terminate 0)]

theorem dpc_waits_wake_sleeps :
    ∃ m, exec (Condition.step (waits 1)) (.init (.init fun _ => freshDpc)) sleeps = some m ∧
      m.asleep (.worker 0) = false ∧ m.asleep (.flusher 5) = true ∧ m.owed 0 = true ∧
      ∃ before m', (before = [] ∨ ∃ i, m.owed i = true ∧ before = [.notify i]) ∧
        exec (Condition.step (waits 1)) m (before ++ [.act (.flushLeave 5)]) = some m' ∧
          (m'.state.flush 5).since = none := by
  obtain ⟨m, hm, hworker, hflusher, howed, henabled⟩ :
      ∃ m, exec (Condition.step (waits 1)) (.init (.init fun _ => freshDpc)) sleeps = some m ∧
        m.asleep (.worker 0) = false ∧ m.asleep (.flusher 5) = true ∧ m.owed 0 = true ∧
          (step 1 m.state (.flushLeave 5)).any (fun s => (s.flush 5).since = none) = true :=
    exec_of_check (by decide +kernel)
  obtain ⟨s, hs, hsince⟩ := (Option.any_eq_true ..).mp henabled
  obtain ⟨-, -, -, hall⟩ :=
    dpc_waits_wake 1 (fun _ => freshDpc) (guarded_of_check (by decide +kernel)) hm
  obtain ⟨before, m', hbefore, hexec, hstate⟩ := hall _ _ hs
  exact ⟨m, hm, hworker, hflusher, howed, before, m', hbefore, hexec, by
    rw [hstate]
    exact of_decide_eq_true hsince⟩

end Usersim.Dpc
