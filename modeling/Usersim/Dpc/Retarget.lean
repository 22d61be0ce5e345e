import Usersim.Dpc.Conservation

/-!
# The CPU is read before the mutex is taken

`insert` and `remove` read the CPU of a DPC to find its queue, and take the mutex of that queue
afterwards. In between another thread may give the DPC another CPU: it is not queued, so nothing
forbids it. Here a call is therefore two actions of its thread, the read and the critical section.

* `atomic_step` — a critical section that finds the DPC still for the CPU it has read is the call
  as one action
* `dpc_conservation` — runs in which every critical section does conserve the inserts
* `insert_elsewhere` — a successful insert that does not is never accounted for
-/

namespace Usersim.Dpc

open Lib Framework

/-- A call that needs the mutex of the queue of a DPC. -/
inductive Call where
  | keInsertQueueDpc (d : DpcId) (argument1 argument2 : Ptr)
  | keRemoveQueueDpc (d : DpcId)
deriving DecidableEq, Repr

def Call.dpc : Call → DpcId
  | .keInsertQueueDpc d _ _ | .keRemoveQueueDpc d => d

/-- The call as one action, the read of the CPU included. -/
def Call.action : Call → Action
  | .keInsertQueueDpc d a b => .keInsertQueueDpc d a b
  | .keRemoveQueueDpc d => .keRemoveQueueDpc d

/-- What the call does under the mutex of queue `cpu`. -/
def Call.critical (s : State) (cpu : Cpu) : Call → State
  | .keInsertQueueDpc d a b => insert s cpu d a b
  | .keRemoveQueueDpc d => remove s d

structure Threads where
  dpc : State
  /-- The calls that have read the CPU of their DPC and have not been through the mutex. -/
  calls : Tid → Option (Call × Cpu)

def Threads.init (dpcs : DpcId → Kdpc) : Threads where
  dpc := State.init dpcs
  calls := fun _ => none

inductive ThreadAction where
  /-- A thread calls `KeInsertQueueDpc` or `KeRemoveQueueDpc`, which reads the CPU of the DPC. -/
  | call (t : Tid) (c : Call)
  /-- It takes the mutex of that CPU's queue, and the call returns. -/
  | critical (t : Tid)
  /-- Anything else that the queues can do. -/
  | other (a : Action)
deriving DecidableEq, Repr

/-- The mutex is held to the end of the critical section: a change of the CPU that falls into it
comes before the action. -/
def threadStep (n : Nat) (s : Threads) : ThreadAction → Option Threads
  | .call t c =>
    match s.calls t with
    | some _ => none
    | none =>
      if (s.dpc.dpcs c.dpc).cpuId < n then
        some { s with calls := Function.update s.calls t (some (c, (s.dpc.dpcs c.dpc).cpuId)) }
      else none
  | .critical t =>
    match s.calls t with
    | some (c, cpu) =>
      some { dpc := c.critical s.dpc cpu, calls := Function.update s.calls t none }
    | none => none
  | .other (.keInsertQueueDpc _ _ _) | .other (.keRemoveQueueDpc _) => none
  | .other a => (step n s.dpc a).map fun s' => { s with dpc := s' }

/-! ## What the callers promise, and what they do not -/

/-- One flush at a time, and a DPC is initialized or retargeted only while it is not queued. -/
def OneFlushing (n : Nat) (s : Threads) : ThreadAction → Prop
  | .other a => OneFlush n s.dpc a
  | .call _ _ | .critical _ => True

instance (n : Nat) (s : Threads) (a : ThreadAction) : Decidable (OneFlushing n s a) :=
  match a with
  | .other a => inferInstanceAs (Decidable (OneFlush n s.dpc a))
  | .call _ _ | .critical _ => isTrue trivial

/-- A call is for the queue it has the mutex of. -/
def Call.OnOwnQueue (s : State) : Option (Call × Cpu) → Prop
  | some (c, cpu) => s.cpuOf c.dpc = cpu
  | none => True

instance (s : State) (c : Option (Call × Cpu)) : Decidable (Call.OnOwnQueue s c) :=
  match c with
  | some (c, cpu) => inferInstanceAs (Decidable (s.cpuOf c.dpc = cpu))
  | none => isTrue trivial

/-- Whoever takes a mutex finds the DPC still for the CPU it has read. -/
def NotRetargeted (s : Threads) : ThreadAction → Prop
  | .critical t => Call.OnOwnQueue s.dpc (s.calls t)
  | .call _ _ | .other _ => True

instance (s : Threads) (a : ThreadAction) : Decidable (NotRetargeted s a) :=
  match a with
  | .critical t => inferInstanceAs (Decidable (Call.OnOwnQueue s.dpc (s.calls t)))
  | .call _ _ | .other _ => isTrue trivial

/-! ## Two actions for one -/

variable {n : Nat} {s s' : Threads} {q : Queues} {a : ThreadAction} {t : Tid}

/-- Every CPU that a call has read exists. -/
def Threads.InRange (n : Nat) (s : Threads) : Prop := ∀ t c cpu, s.calls t = some (c, cpu) → cpu < n

theorem Call.step_action {c : Call} {dpc : State} (hn : dpc.cpuOf c.dpc < n) :
    step n dpc c.action = some (c.critical dpc (dpc.cpuOf c.dpc)) := by
  cases c <;> exact if_pos hn

theorem threadStep_other {b : Action} (hs : threadStep n s (.other b) = some s') :
    ∃ d, step n s.dpc b = some d ∧ { s with dpc := d } = s' := by
  cases b with
  | keInsertQueueDpc _ _ _ => cases hs
  | keRemoveQueueDpc _ => cases hs
  | _ => exact Option.map_eq_some_iff.mp hs

/-- A critical section that finds the DPC still for the CPU it has read is the call as one action;
every other action leaves the queues alone or is an action of theirs. -/
theorem atomic_step (hin : s.InRange n) (ha : OneFlushing n s a) (hsame : NotRetargeted s a)
    (hs : threadStep n s a = some s') :
    s'.dpc = s.dpc ∨ ∃ b, OneFlush n s.dpc b ∧ step n s.dpc b = some s'.dpc := by
  cases a with
  | call t c =>
    left
    simp only [threadStep] at hs
    split at hs
    · cases hs
    · split at hs
      · cases hs
        rfl
      · cases hs
  | critical t =>
    right
    simp only [threadStep] at hs
    split at hs
    · next c cpu hc =>
      cases hs
      simp only [NotRetargeted, hc] at hsame
      have hcpu : s.dpc.cpuOf c.dpc = cpu := hsame
      have hn : s.dpc.cpuOf c.dpc < n := hcpu ▸ hin t c cpu hc
      refine ⟨c.action, ?_, ?_⟩
      · cases c <;> exact ⟨trivial, trivial⟩
      · rw [Call.step_action hn, hcpu]
    · cases hs
  | other b =>
    obtain ⟨d, hd, rfl⟩ := threadStep_other hs
    exact Or.inr ⟨b, ha, hd⟩

theorem Threads.InRange.step (h : s.InRange n) (hs : threadStep n s a = some s') :
    s'.InRange n := by
  have hset : ∀ t x, (∀ c cpu, x = some (c, cpu) → cpu < n) →
      ∀ u c cpu, Function.update s.calls t x u = some (c, cpu) → cpu < n := by
    intro t x hx u c cpu hu
    by_cases hut : u = t
    · rw [hut, Function.update_self] at hu
      exact hx c cpu hu
    · rw [Function.update_of_ne hut] at hu
      exact h u c cpu hu
  cases a with
  | call t c =>
    simp only [threadStep] at hs
    split at hs
    · cases hs
    · split at hs
      · next hn =>
        cases hs
        refine hset t _ fun c' cpu hx => ?_
        obtain ⟨-, rfl⟩ := Prod.mk.inj (Option.some.inj hx)
        exact hn
      · cases hs
  | critical t =>
    simp only [threadStep] at hs
    split at hs
    · cases hs
      exact hset t none nofun
    · cases hs
  | other b =>
    obtain ⟨d, -, rfl⟩ := threadStep_other hs
    exact h

/-! ## Conservation -/

/-- Conservation in one state, with what the calls in progress return there. -/
structure Conserved (n : Nat) (s : Threads) (q : Queues) : Prop where
  rep : s.dpc.Rep q
  situation : ∀ item i, item.insertion i ∈ s.dpc.log → Situation s.dpc q item i
  /-- A worker that has dequeued an item can call the routine of the DPC with it. -/
  call : ∀ i item, s.dpc.workers i = .dequeued item →
    ∃ s', threadStep n s (.other (.workerCall i)) = some s' ∧
      s'.dpc.log = .executed i item (s.dpc.dpcs item.dpc).workItemRoutine :: s.dpc.log
  insert_returns : ∀ t d a b cpu s', s.calls t = some (.keInsertQueueDpc d a b, cpu) →
    threadStep n s (.critical t) = some s' →
    (Queued s.dpc q d → s'.dpc.log = .insertRefused d :: s.dpc.log) ∧
    (¬ Queued s.dpc q d → s'.dpc.log =
      .inserted s.dpc.nextTicket d cpu (s.dpc.dpcs d).context a b :: s.dpc.log)
  remove_returns : ∀ t d cpu s', s.calls t = some (.keRemoveQueueDpc d, cpu) →
    threadStep n s (.critical t) = some s' →
    (Queued s.dpc q d → s'.dpc.log = .removed (s.dpc.ticket d) :: s.dpc.log) ∧
    (¬ Queued s.dpc q d → s'.dpc.log = .removeRefused d :: s.dpc.log)
  /-- What one CPU has executed, newest first, is in the order of the inserts. -/
  order : ∀ i, (executedOn i s.dpc.log).Pairwise (· > ·)

theorem log_insert {s : State} (hr : s.Rep q) (cpu : Cpu) (d : DpcId) (a b : Ptr) :
    (Queued s q d → (insert s cpu d a b).log = .insertRefused d :: s.log) ∧
    (¬ Queued s q d → (insert s cpu d a b).log =
      .inserted s.nextTicket d cpu (s.dpcs d).context a b :: s.log) := by
  have he := hr.isEmpty_entry d
  constructor
  · intro hd
    simp [insert, Bool.eq_false_iff.mpr fun hc => he.mp hc hd]
  · intro hd
    simp [insert, he.mpr hd]

theorem log_remove {s : State} (hr : s.Rep q) (d : DpcId) :
    (Queued s q d → (remove s d).log = .removed (s.ticket d) :: s.log) ∧
    (¬ Queued s q d → (remove s d).log = .removeRefused d :: s.log) := by
  have he := hr.isEmpty_entry d
  constructor
  · intro hd
    simp [remove, Bool.eq_false_iff.mpr fun hc => he.mp hc hd]
  · intro hd
    simp [remove, he.mpr hd]

theorem conserved_of_accounted (h : Accounted s.dpc q) : Conserved n s q where
  rep := h.rep
  situation := fun _ _ hi => h.account.situation hi
  call := fun i item hw => ⟨_, by simp only [threadStep, step, hw]; rfl, rfl⟩
  insert_returns := by
    intro t d a b cpu s' hc hs
    simp only [threadStep, hc] at hs
    cases hs
    exact log_insert h.rep cpu d a b
  remove_returns := by
    intro t d cpu s' hc hs
    simp only [threadStep, hc] at hs
    cases hs
    exact log_remove h.rep d
  order := h.account.executed_sorted

/--
After every run of any number of threads and workers with at most one flush at a time, in which
every call that takes a mutex finds the DPC still for the CPU it has read: every successful insert
is queued, removed once, or dequeued once and executed once with its own arguments; inserting and
removing succeed exactly when the DPC is not queued, or is; and every CPU executes in the order of
the inserts.
-/
theorem dpc_conservation (n : Nat) (dpcs : DpcId → Kdpc) (as : List ThreadAction) (s : Threads)
    (hg : Guarded (threadStep n) (OneFlushing n) (Threads.init dpcs) as)
    (hsame : Guarded (threadStep n) NotRetargeted (Threads.init dpcs) as)
    (hs : exec (threadStep n) (Threads.init dpcs) as = some s) : ∃ q, Conserved n s q := by
  have hinv : s.InRange n ∧ ∃ q, Accounted s.dpc q := by
    refine exec_invariant_of_guard (P := fun s => s.InRange n ∧ ∃ q, Accounted s.dpc q) ?_ ?_
      (guarded_and.mpr ⟨hg, hsame⟩) hs
    · rintro s a s' ⟨hin, q, hq⟩ ⟨ha, hsame⟩ hstep
      refine ⟨hin.step hstep, ?_⟩
      rcases atomic_step hin ha hsame hstep with hkeep | ⟨b, hb, hdpc⟩
      · exact ⟨q, hkeep ▸ hq⟩
      · exact hq.step hb hdpc
    · exact ⟨nofun, _, accounted_init dpcs⟩
  obtain ⟨-, q, hq⟩ := hinv
  exact ⟨q, conserved_of_accounted hq⟩

/-- One DPC is executed and inserted again while its routine runs, a second one is removed and
retargeted, and a flush waits behind both. -/
def reinsertRun : List ThreadAction :=
  [.call 1 (.keInsertQueueDpc 0 1 2), .call 2 (.keInsertQueueDpc 0 3 4), .critical 1, .critical 2,
   .call 1 (.keInsertQueueDpc 1 5 6), .critical 1, .other (.flushStart 8), .other (.flushEnter 8),
   .other (.workerPop 0), .call 2 (.keInsertQueueDpc 0 3 4), .critical 2, .other (.workerCall 0),
   .call 1 (.keRemoveQueueDpc 1), .critical 1, .other (.keSetTargetProcessorDpc 1 1),
   .other (.workerReturn 0), .other (.workerPop 0), .other (.flushLeave 8), .other (.flushEnter 8),
   .other (.workerPop 0), .other (.workerPop 1), .other (.workerCall 0), .other (.workerReturn 0),
   .other (.flushLeave 8), .other (.flushEnd 8), .call 1 (.keInsertQueueDpc 1 7 8), .critical 1]

theorem reinsertRun_conserved :
    ∃ s q, exec (threadStep 2) (Threads.init fun _ => idleDpc) reinsertRun = some s ∧
      Conserved 2 s q ∧ executedOn 0 s.dpc.log = [2, 0] := by
  obtain ⟨s, hs, hx⟩ : ∃ s, exec (threadStep 2) (Threads.init fun _ => idleDpc) reinsertRun =
      some s ∧ executedOn 0 s.dpc.log = [2, 0] := exec_of_check (by decide +kernel)
  obtain ⟨q, hq⟩ := dpc_conservation 2 (fun _ => idleDpc) reinsertRun s
    (guarded_of_check (by decide +kernel)) (guarded_of_check (by decide +kernel)) hs
  exact ⟨s, q, hs, hq, hx⟩

/-! ## An insert into the queue of another CPU -/

/-- A DPC that goes into another queue than that of its CPU is in none of the three situations:
its entry is linked, so it is not free, and it is not where its CPU says. -/
theorem insert_elsewhere {s : State} (h : Account s q) (hr : s.Rep q) {d : DpcId} (cpu : Cpu)
    (a b : Ptr) (hd : ¬ Queued s q d) (hcpu : s.cpuOf d ≠ cpu) :
    ∃ item, item.insertion cpu ∈ (insert s cpu d a b).log ∧
      ∀ q', (insert s cpu d a b).Rep q' → ¬ Situation (insert s cpu d a b) q' item cpu := by
  have hlog := (log_insert hr cpu d a b).2 hd
  have he := (hr.isEmpty_entry d).mpr hd
  obtain ⟨hremoved, hdequeued⟩ := h.nextTicket_unknown
  have hnone : ∀ e ∈ (insert s cpu d a b).log, e ≠ .removed s.nextTicket ∧
      e ≠ .dequeued s.nextTicket := by
    rw [hlog]
    intro e hm
    rcases List.mem_cons.mp hm with rfl | hm
    · simp
    · exact ⟨fun hr => hremoved (hr ▸ hm), fun hd => hdequeued (hd ▸ hm)⟩
  refine ⟨⟨d, (s.dpcs d).context, a, b, s.nextTicket⟩, by rw [hlog]; exact List.mem_cons_self ..,
    fun q' hr' hsit => ?_⟩
  cases hsit with
  | queued hq' _ _ _ _ =>
    have hcpuOf : (insert s cpu d a b).cpuOf d = s.cpuOf d := by
      simp [insert, he, State.cpuOf]
    exact hcpu (hcpuOf.symm.trans (Rep.mem_entry hr' hq'))
  | removed _ hr' _ _ =>
    have hm := List.one_le_count_iff.mp (Nat.le_of_eq hr'.symm)
    exact (hnone _ hm).1 rfl
  | dequeued _ _ hd' _ =>
    have hm := List.one_le_count_iff.mp (Nat.le_of_eq hd'.symm)
    exact (hnone _ hm).2 rfl

/-- A DPC that is not queued is retargeted between the read of its CPU and the mutex. -/
def retargetRun : List ThreadAction :=
  [.call 1 (.keInsertQueueDpc 0 1 2), .other (.keSetTargetProcessorDpc 0 1), .critical 1]

theorem retargetRun_not_conserved :
    Guarded (threadStep 2) (OneFlushing 2) (Threads.init fun _ => idleDpc) retargetRun ∧
      ∃ s, exec (threadStep 2) (Threads.init fun _ => idleDpc) retargetRun = some s ∧
        ¬ ∃ q, Conserved 2 s q := by
  let before := keSetTargetProcessorDpc (State.init fun _ => idleDpc) 0 1
  obtain ⟨q₀, h⟩ : ∃ q₀, Accounted before q₀ :=
    (accounted_init fun _ => idleDpc).step (n := 2) (a := .keSetTargetProcessorDpc 0 1)
      (by decide) rfl
  have hd : ¬ Queued before q₀ 0 := (h.rep.isEmpty_entry 0).mp rfl
  obtain ⟨item, hm, hnot⟩ := insert_elsewhere h.account h.rep 0 1 2 hd
    (by decide)
  refine ⟨guarded_of_check (by decide +kernel), ⟨insert before 0 0 1 2, _⟩, rfl, ?_⟩
  rintro ⟨q, hq⟩
  exact hnot q hq.rep (hq.situation item 0 hm)

end Usersim.Dpc
