import Usersim.Dpc.Barrier

/-!
# The end of a queue

The destructor of a queue sets `terminate`, wakes the worker and joins it. The worker looks at
the flag before each item, so it finishes the one it has and drops the rest; a flush that waits
is let go.

* `workerSteps_add_remaining` — what the worker still does is bounded, whatever the others do
* `queue_shut_down` — the join returns, and after it nothing of the queue runs
-/

namespace Usersim.Dpc

open Lib Framework

variable {n : Nat} {s s' : State} {q q' : Queues} {a : Action} {i : Cpu}

/-! ## The join -/

/-- A step of the worker of queue `i`. -/
def Action.ofWorker (i : Cpu) : Action → Bool
  | .workerPop j | .workerCall j | .workerReturn j | .workerExit j => j == i
  | .keInitializeDpc .. | .keSetTargetProcessorDpc .. | .keInsertQueueDpc .. | .keRemoveQueueDpc _
  | .flushStart _ | .flushEnter _ | .flushLeave _ | .flushEnd _ | .terminate _ => false

/-- The steps to the end of the loop, once the queue terminates. -/
def remaining : Worker → Nat
  | .ready => 1
  | .dequeued _ => 3
  | .executing _ => 2
  | .exited => 0

/-- What a worker does in one step, given its flag. -/
inductive Move (terminate : Bool) : Worker → Worker → Prop
  | popMarker (h : terminate = false) : Move terminate .ready .ready
  | popEntry (h : terminate = false) (item : WorkItem) : Move terminate .ready (.dequeued item)
  | call (item : WorkItem) : Move terminate (.dequeued item) (.executing item)
  | return (item : WorkItem) : Move terminate (.executing item) .ready
  | exit (h : terminate = true) : Move terminate .ready .exited

theorem move_workerPop (hw : s.workers i = .ready) (ht : s.terminate i = false)
    (hs : workerPop s i = some s') :
    Move (s.terminate i) (s.workers i) (s'.workers i) ∧ s'.terminate = s.terminate ∧
      ∀ j, j ≠ i → s'.workers j = s.workers j := by
  simp only [workerPop] at hs
  split at hs
  · simp only [Option.ite_none_right_eq_some, Option.some.injEq] at hs
    obtain ⟨-, rfl⟩ := hs
    exact ⟨by rw [hw]; exact .popMarker ht, rfl, fun _ _ => rfl⟩
  · cases hs
    refine ⟨?_, rfl, fun j hj => Function.update_of_ne hj _ _⟩
    simp only [Function.update_self, hw]
    exact .popEntry ht _
  · cases hs

/-- A step of worker `j`, as worker `i` sees it. -/
theorem move_update {i j : Cpu} {w : Worker} (hmove : Move (s.terminate j) (s.workers j) w) :
    if j == i then Move (s.terminate i) (s.workers i) (Function.update s.workers j w i)
    else Function.update s.workers j w i = s.workers i := by
  cases hj : j == i with
  | true =>
    obtain rfl := eq_of_beq hj
    rw [if_pos rfl, Function.update_self]
    exact hmove
  | false =>
    rw [if_neg Bool.false_ne_true]
    exact Function.update_of_ne (Ne.symm (ne_of_beq_false hj)) _ _

/-- Only its worker moves a queue. -/
theorem step_move (hs : step n s a = some s') (i : Cpu) :
    (s.terminate i = true → s'.terminate i = true) ∧
      if a.ofWorker i then Move (s.terminate i) (s.workers i) (s'.workers i)
      else s'.workers i = s.workers i := by
  cases a with
  | workerPop j =>
    simp only [step, Option.ite_none_right_eq_some] at hs
    obtain ⟨⟨-, hw, ht, -⟩, hs⟩ := hs
    obtain ⟨hmove, hterm, hrest⟩ := move_workerPop hw ht hs
    refine ⟨fun h => by rw [hterm]; exact h, ?_⟩
    cases hj : j == i with
    | true =>
      obtain rfl := eq_of_beq hj
      simp only [Action.ofWorker, hj, if_true]
      exact hmove
    | false =>
      simp only [Action.ofWorker, hj, Bool.false_eq_true, if_false]
      exact hrest i (Ne.symm (ne_of_beq_false hj))
  | workerCall j =>
    simp only [step] at hs
    split at hs
    · next item hw =>
      cases hs
      exact ⟨id, move_update (by rw [hw]; exact .call item)⟩
    · cases hs
  | workerReturn j =>
    simp only [step] at hs
    split at hs
    · next item hw =>
      cases hs
      exact ⟨id, move_update (by rw [hw]; exact .return item)⟩
    · cases hs
  | workerExit j =>
    simp only [step, Option.ite_none_right_eq_some, Option.some.injEq] at hs
    obtain ⟨⟨hw, ht⟩, rfl⟩ := hs
    exact ⟨id, move_update (by rw [hw]; exact .exit ht)⟩
  | terminate j =>
    cases hs
    refine ⟨fun h => ?_, rfl⟩
    by_cases hj : i = j
    · subst hj
      exact Function.update_self ..
    · exact (Function.update_of_ne hj _ _).trans h
  | keInsertQueueDpc d a1 a2 =>
    simp only [step, Option.ite_none_right_eq_some, Option.some.injEq] at hs
    obtain ⟨-, rfl⟩ := hs
    unfold insert
    simp only
    split <;> exact ⟨id, rfl⟩
  | keRemoveQueueDpc d =>
    simp only [step, Option.ite_none_right_eq_some, Option.some.injEq] at hs
    obtain ⟨-, rfl⟩ := hs
    unfold remove
    split <;> exact ⟨id, rfl⟩
  | keInitializeDpc d r c | keSetTargetProcessorDpc d c =>
    cases hs
    exact ⟨id, rfl⟩
  | flushStart t =>
    simp only [step, Option.ite_none_left_eq_some, Option.some.injEq] at hs
    obtain ⟨-, rfl⟩ := hs
    exact ⟨id, rfl⟩
  | flushEnter t | flushEnd t =>
    simp only [step, Option.ite_none_right_eq_some, Option.some.injEq] at hs
    obtain ⟨-, rfl⟩ := hs
    exact ⟨id, rfl⟩
  | flushLeave t =>
    simp only [step] at hs
    split at hs
    · simp only [Option.ite_none_right_eq_some, Option.some.injEq] at hs
      obtain ⟨-, rfl⟩ := hs
      exact ⟨id, rfl⟩
    · cases hs

theorem Move.remaining {w w' : Worker} (h : Move true w w') : remaining w' + 1 = remaining w := by
  cases h with
  | popMarker h | popEntry h => cases h
  | call _ | «return» _ | exit _ => rfl

/-- What the worker has done and what it still has to do. -/
theorem workerSteps_add_remaining {bs : List Action} (ht : s.terminate i = true)
    (hs : exec (step n) s bs = some s') :
    s'.terminate i = true ∧
      bs.countP (Action.ofWorker i) + remaining (s'.workers i) = remaining (s.workers i) := by
  induction bs generalizing s with
  | nil =>
    cases hs
    exact ⟨ht, Nat.zero_add _⟩
  | cons b bs ih =>
    obtain ⟨s₁, h₁, hs⟩ := exec_cons_eq_some.mp hs
    obtain ⟨hterm, hmove⟩ := step_move h₁ i
    obtain ⟨hterm', hcount⟩ := ih (hterm ht) hs
    refine ⟨hterm', ?_⟩
    cases hw : b.ofWorker i with
    | true =>
      rw [if_pos hw, ht] at hmove
      rw [List.countP_cons_of_pos hw, ← hmove.remaining, ← hcount]
      omega
    | false =>
      rw [if_neg (by simp [hw])] at hmove
      rw [List.countP_cons_of_neg (by simp [hw]), ← hmove, hcount]

/-- A worker that has not left the loop can go on. -/
theorem worker_enabled (ht : s.terminate i = true) (hw : s.workers i ≠ .exited) :
    ∃ a, a.ofWorker i = true ∧ (step n s a).isSome = true := by
  cases hworker : s.workers i with
  | ready => exact ⟨.workerExit i, beq_self_eq_true i, by simp [step, hworker, ht]⟩
  | dequeued item => exact ⟨.workerCall i, beq_self_eq_true i, by simp [step, hworker]⟩
  | executing item => exact ⟨.workerReturn i, beq_self_eq_true i, by simp [step, hworker]⟩
  | exited => exact absurd hworker hw

theorem flush_enabled {t : Tid} {m : Nat} (ht : s.terminate i = true) (hmem : t ∈ s.flushers)
    (hflush : s.flush t = { cpu := i, since := some m }) :
    (step n s (.flushLeave t)).isSome = true := by
  simp [step, hflush, hmem, ht]

/-! ## The inserts -/

/-- What is known of the queues in every run. -/
theorem account_exec {dpcs : DpcId → Kdpc} {as : List Action}
    (hg : Guarded (step n) (ApartFlush n) (State.init dpcs) as)
    (hs : exec (step n) (State.init dpcs) as = some s) : ∃ q, Account s q := by
  have hinv : ∃ q, s.Rep q ∧ Account s q := by
    refine exec_invariant_of_guard (P := fun s => ∃ q, s.Rep q ∧ Account s q) ?_ ?_ hg hs
    · rintro s a s' ⟨q, hr, hacc⟩ ha hstep
      obtain ⟨q', he, hr'⟩ := step_effect hr ha.1 ha.2 hstep
      exact ⟨q', hr', account_step hacc hr he⟩
    · exact ⟨_, rep_init dpcs, account_init dpcs⟩
  obtain ⟨q, -, hacc⟩ := hinv
  exact ⟨q, hacc⟩

theorem mem_executedOn {log : List Event} {t : Nat} :
    t ∈ executedOn i log ↔ ∃ item r, .executed i item r ∈ log ∧ item.ticket = t := by
  simp only [executedOn, List.mem_filterMap]
  constructor
  · rintro ⟨e, he, hticket⟩
    cases e with
    | executed j item r =>
      simp only [executedTicket, Option.ite_none_right_eq_some, Option.some.injEq] at hticket
      obtain ⟨rfl, rfl⟩ := hticket
      exact ⟨item, r, he, rfl⟩
    | _ => cases hticket
  · rintro ⟨item, r, he, rfl⟩
    exact ⟨_, he, by simp [executedTicket]⟩

theorem not_holds_exited (hw : s.workers i = .exited) (item : WorkItem) :
    ¬ Holds (s.workers i) item := by
  rw [hw]
  exact fun h => h.elim nofun nofun

/-- A worker that has left has finished what it started. -/
theorem Account.executed_finished (h : Account s q) (hw : s.workers i = .exited) {t : Nat}
    (ht : t ∈ executedOn i s.log) : .finished t ∈ s.log := by
  obtain ⟨item, r, he, rfl⟩ := mem_executedOn.mp ht
  cases h.place _ _ _ _ _ _ (h.executed_inserted i item r he) with
  | queued hq _ _ => exact absurd (List.mem_append_right _ ht) (h.queued_not_executed hq)
  | removed _ _ _ hx => exact absurd (List.mem_append_right _ ht) hx
  | dequeued _ _ _ _ hf =>
    refine hf.resolve_left ?_
    rintro ⟨x, hx, -⟩
    exact not_holds_exited hw x hx

/-- Every insert into the queue of a worker that has left is removed, finished, or dropped. -/
theorem Account.done_or_dropped (h : Account s q) (hw : s.workers i = .exited) {t : Nat} {d : DpcId}
    {c a b : Ptr} (hi : .inserted t d i c a b ∈ s.log) :
    Done s.log t ∨ ∀ j item r, .executed j item r ∈ s.log → item.ticket ≠ t := by
  cases h.place _ _ _ _ _ _ hi with
  | queued hq _ _ =>
    right
    rintro j item r he rfl
    obtain ⟨-, hij, -⟩ :=
      h.inserted_unique _ _ _ _ _ _ _ _ _ _ _ hi (h.executed_inserted j item r he)
    subst hij
    exact h.queued_not_executed hq (List.mem_append_right _ (mem_executedOn.mpr ⟨item, r, he, rfl⟩))
  | removed _ hr _ _ => exact .inl (.inl (List.count_pos_iff.mp (by omega)))
  | dequeued _ _ _ _ hf =>
    refine .inl (.inr (hf.resolve_left ?_))
    rintro ⟨x, hx, -⟩
    exact not_holds_exited hw x hx

/-- A step writes an execution on a queue to the log only if it is a call of its worker. -/
theorem step_executedOn (hs : step n s a = some s') (hcall : a ≠ .workerCall i) :
    executedOn i s'.log = executedOn i s.log := by
  cases a with
  | workerCall j =>
    have hij : j ≠ i := fun h => hcall (by rw [h])
    simp only [step] at hs
    split at hs
    · cases hs
      simp [executedOn_cons, executedTicket, hij]
    · cases hs
  | workerPop j =>
    simp only [step, Option.ite_none_right_eq_some] at hs
    obtain ⟨-, hs⟩ := hs
    simp only [workerPop] at hs
    split at hs
    · simp only [Option.ite_none_right_eq_some, Option.some.injEq] at hs
      obtain ⟨-, rfl⟩ := hs
      rfl
    · cases hs
      simp [executedOn_cons, executedTicket]
    · cases hs
  | workerReturn j =>
    simp only [step] at hs
    split at hs
    · cases hs
      simp [executedOn_cons, executedTicket]
    · cases hs
  | keInsertQueueDpc d a1 a2 =>
    simp only [step, Option.ite_none_right_eq_some, Option.some.injEq] at hs
    obtain ⟨-, rfl⟩ := hs
    unfold insert
    simp only
    split <;> simp [executedOn_cons, executedTicket]
  | keRemoveQueueDpc d =>
    simp only [step, Option.ite_none_right_eq_some, Option.some.injEq] at hs
    obtain ⟨-, rfl⟩ := hs
    unfold remove
    split <;> simp [executedOn_cons, executedTicket]
  | flushLeave t =>
    simp only [step] at hs
    split at hs
    · simp only [Option.ite_none_right_eq_some, Option.some.injEq] at hs
      obtain ⟨-, rfl⟩ := hs
      simp only
      split
      · rfl
      · simp [executedOn_cons, executedTicket]
    · cases hs
  | keInitializeDpc d r c | keSetTargetProcessorDpc d c | terminate j =>
    cases hs
    rfl
  | flushStart t =>
    simp only [step, Option.ite_none_left_eq_some, Option.some.injEq] at hs
    obtain ⟨-, rfl⟩ := hs
    rfl
  | workerExit t | flushEnter t | flushEnd t =>
    simp only [step, Option.ite_none_right_eq_some, Option.some.injEq] at hs
    obtain ⟨-, rfl⟩ := hs
    rfl

/-- A worker that has left stays where it is and executes nothing. -/
theorem exited_exec {bs : List Action} (hw : s.workers i = .exited)
    (hs : exec (step n) s bs = some s') :
    s'.workers i = .exited ∧ executedOn i s'.log = executedOn i s.log := by
  refine exec_invariant
    (P := fun s' => s'.workers i = .exited ∧ executedOn i s'.log = executedOn i s.log)
    ?_ ⟨hw, rfl⟩ hs
  rintro s₁ a s₂ ⟨hexited, hlog⟩ hstep
  obtain ⟨-, hmove⟩ := step_move hstep i
  rw [hexited] at hmove
  split at hmove
  · cases hmove
  · next hother =>
    refine ⟨hmove, (step_executedOn hstep ?_).trans hlog⟩
    rintro rfl
    exact hother (beq_self_eq_true i)

/-! ## The end of a queue -/

/-- The join returns: the worker can go on, and does so at most three times more. -/
structure Joins (n : Nat) (s : State) (i : Cpu) : Prop where
  bounded : ∀ bs s', exec (step n) s bs = some s' →
    bs.countP (Action.ofWorker i) + remaining (s'.workers i) = remaining (s.workers i)
  worker : ∀ bs s', exec (step n) s bs = some s' → s'.workers i ≠ .exited →
    ∃ a, a.ofWorker i = true ∧ (step n s' a).isSome = true
  flush : ∀ bs s' t m, exec (step n) s bs = some s' → t ∈ s'.flushers →
    s'.flush t = { cpu := i, since := some m } → (step n s' (.flushLeave t)).isSome = true

/-- The worker has been joined in `s`, and `s'` is some time after that. -/
structure ShutDown (s s' : State) (i : Cpu) : Prop where
  /-- What was started is finished, and nothing is started after it. -/
  finished : ∀ t ∈ executedOn i s'.log, .finished t ∈ s.log
  inserts : ∀ t d c a b, .inserted t d i c a b ∈ s'.log →
    Done s'.log t ∨ ∀ j item r, .executed j item r ∈ s'.log → item.ticket ≠ t

/--
In every interleaving, a queue that is told to terminate lets its flushes go and its worker reaches
the end of its loop, whatever the other threads do; from then on nothing of the queue is executed,
and each insert into it was removed, is finished, or is never executed.
-/
theorem queue_shut_down (n : Nat) (dpcs : DpcId → Kdpc) (as bs : List Action) (s s' : State)
    (i : Cpu) (hg : Guarded (step n) (ApartFlush n) (State.init dpcs) (as ++ bs))
    (hs : exec (step n) (State.init dpcs) as = some s) (ht : s.terminate i = true)
    (hs' : exec (step n) s bs = some s') :
    Joins n s i ∧ (s.workers i = .exited → ShutDown s s' i) := by
  refine ⟨⟨?_, ?_, ?_⟩, fun hw => ?_⟩
  · exact fun cs s₁ hcs => (workerSteps_add_remaining ht hcs).2
  · exact fun cs s₁ hcs => worker_enabled (workerSteps_add_remaining ht hcs).1
  · exact fun cs s₁ t m hcs => flush_enabled (workerSteps_add_remaining ht hcs).1
  · obtain ⟨q, hacc⟩ := account_exec (guarded_append hg).1 hs
    have hall : exec (step n) (State.init dpcs) (as ++ bs) = some s' := by
      rw [exec_append, hs]
      exact hs'
    obtain ⟨q', hacc'⟩ := account_exec hg hall
    obtain ⟨hw', hlog⟩ := exited_exec hw hs'
    refine ⟨fun t ht => ?_, fun t d c a b hi => hacc'.done_or_dropped hw' hi⟩
    rw [hlog] at ht
    exact hacc.executed_finished hw ht

/-- A DPC runs when the queue is told to terminate, and another one is queued. -/
def dropsOne : List Action :=
  [.keInsertQueueDpc 0 1 2, .keInsertQueueDpc 1 3 4, .workerPop 0, .workerCall 0, .flushStart 5,
   .flushEnter 5, .terminate 0, .workerReturn 0, .workerExit 0]

theorem queue_shut_down_dropsOne :
    ∃ s s', exec (step 1) (State.init fun _ => freshDpc) dropsOne = some s ∧
      exec (step 1) s [.flushLeave 5, .keInsertQueueDpc 0 5 6] = some s' ∧
      executedOn 0 s'.log = [0] ∧ Joins 1 s 0 ∧ ShutDown s s' 0 := by
  obtain ⟨s, hs, ht, hw⟩ :
      ∃ s, exec (step 1) (State.init fun _ => freshDpc) dropsOne = some s ∧
        s.terminate 0 = true ∧ s.workers 0 = .exited := exec_of_check (by decide +kernel)
  obtain ⟨s'', hs'', hx⟩ : ∃ s', exec (step 1) (State.init fun _ => freshDpc)
      (dropsOne ++ [.flushLeave 5, .keInsertQueueDpc 0 5 6]) = some s' ∧
        executedOn 0 s'.log = [0] := exec_of_check (by decide +kernel)
  rw [exec_append, hs] at hs''
  obtain ⟨hjoins, hshut⟩ := queue_shut_down 1 (fun _ => freshDpc) dropsOne _ s s'' 0
    (guarded_of_check (by decide +kernel)) hs ht hs''
  exact ⟨s, s'', hs, hs'', hx, hjoins, hshut hw⟩

end Usersim.Dpc
