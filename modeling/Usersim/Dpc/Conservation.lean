import Usersim.Dpc.Account

/-!
# No insert is lost, none runs twice

Runs in which at most one `KeFlushQueuedDpcs` is in progress at a time. The marker of a queue is
then always owned by that one flush, so no flush ever finds it queued (`OneFlush.markerFree`) and
the queues stay lists. What the account says of every insert becomes `Situation`:

* `Account.situation` — the account decides the situation of every insert
* `Accounted.step` — every action that may be made keeps the account
-/

namespace Usersim.Dpc

open Lib Framework

variable {n : Nat} {s s' : State} {q q' : Queues} {a : Action}

/-! ## One flush at a time -/

/-- The calls that may be made: a flush starts only when no other is in progress, and the queues
are not torn down. -/
def OneFlush (n : Nat) (s : State) (a : Action) : Prop :=
  Admissible n s a ∧
    match a with
    | .flushStart _ => s.flushers = []
    | .terminate _ => False
    | _ => True

instance (n : Nat) (s : State) (a : Action) : Decidable (OneFlush n s a) :=
  match a with
  | .flushStart _ => inferInstanceAs (Decidable (_ ∧ s.flushers = []))
  | .terminate _ => inferInstanceAs (Decidable (_ ∧ False))
  | .keInitializeDpc _ _ _ | .keSetTargetProcessorDpc _ _ | .keInsertQueueDpc _ _ _
  | .keRemoveQueueDpc _ | .workerPop _ | .workerCall _ | .workerReturn _ | .workerExit _
  | .flushEnter _ | .flushLeave _ | .flushEnd _ => inferInstanceAs (Decidable (_ ∧ True))

/-- Only a flush that waits has a marker in a queue, and there is at most one flush. -/
structure MarkerOwned (s : State) (q : Queues) : Prop where
  one : s.flushers.length ≤ 1
  owner : ∀ i, .flushEntry i ∈ q i →
    ∃ t ∈ s.flushers, (s.flush t).cpu = i ∧ (s.flush t).since ≠ none
  running : ∀ i, s.terminate i = false

theorem markerOwned_init (dpcs : DpcId → Kdpc) :
    MarkerOwned (State.init dpcs) fun _ => [] :=
  ⟨Nat.zero_le _, fun _ h => absurd h List.not_mem_nil, fun _ => rfl⟩

/-- The only flush in progress owns every marker there is. -/
theorem MarkerOwned.only (h : MarkerOwned s q) {t : Tid} (ht : t ∈ s.flushers) {i : Cpu}
    (hm : .flushEntry i ∈ q i) : (s.flush t).cpu = i ∧ (s.flush t).since ≠ none := by
  obtain ⟨u, hu, hown⟩ := h.owner i hm
  have hlen := h.one
  match hf : s.flushers with
  | [] => rw [hf] at ht; cases ht
  | [x] =>
    rw [hf] at ht hu
    rw [List.mem_singleton.mp ht, ← List.mem_singleton.mp hu]
    exact hown
  | _ :: _ :: _ => rw [hf] at hlen; simp at hlen

/-- Only a flush puts a marker into a queue. -/
theorem Effect.marker_mem (he : Effect n s q a s' q') {i : Cpu} (hm : .flushEntry i ∈ q' i) :
    .flushEntry i ∈ q i ∨ ∃ t, a = .flushEnter t ∧ (s.flush t).cpu = i := by
  cases he with
  | @inserted d _ _ _ _ _ =>
    by_cases hi : i = s.cpuOf d
    · subst hi
      left
      simpa using hm
    · rw [Function.update_of_ne hi] at hm
      exact Or.inl hm
  | @removed d _ _ =>
    by_cases hi : i = s.cpuOf d
    · subst hi
      rw [Function.update_self] at hm
      exact Or.inl (List.mem_of_mem_erase hm)
    · rw [Function.update_of_ne hi] at hm
      exact Or.inl hm
  | @popMarker j l _ _ hq =>
    by_cases hi : i = j
    · subst hi
      rw [Function.update_self] at hm
      exact Or.inl (hq ▸ List.mem_cons_of_mem _ hm)
    · rw [Function.update_of_ne hi] at hm
      exact Or.inl hm
  | @popEntry j d l _ _ hq =>
    by_cases hi : i = j
    · subst hi
      rw [Function.update_self] at hm
      exact Or.inl (hq ▸ List.mem_cons_of_mem _ hm)
    · rw [Function.update_of_ne hi] at hm
      exact Or.inl hm
  | @flushEnter t _ _ _ _ =>
    by_cases hi : i = (s.flush t).cpu
    · exact Or.inr ⟨t, rfl, hi.symm⟩
    · rw [Function.update_of_ne hi] at hm
      exact Or.inl hm
  | _ => exact Or.inl hm

theorem OneFlush.markerFree (h : MarkerOwned s q) (hr : s.Rep q) (ha : OneFlush n s a)
    (hs : step n s a = some s') : MarkerFree s a := by
  cases a with
  | flushEnter t =>
    simp only [step] at hs
    split at hs
    · next hc =>
      refine (hr.isEmpty_marker _).mpr fun hm => ?_
      exact (h.only hc.1 hm).2 hc.2.1
    · cases hs
  | _ => trivial

theorem MarkerOwned.step (h : MarkerOwned s q) (ha : OneFlush n s a)
    (he : Effect n s q a s' q') : MarkerOwned s' q' := by
  have hmem := fun i => he.marker_mem (i := i)
  -- an action that neither flushes nor terminates leaves the flushes alone
  have hkeep : (∀ t, a ≠ .flushEnter t) → s'.flushers = s.flushers → s'.flush = s.flush →
      s'.terminate = s.terminate → MarkerOwned s' q' := by
    intro hne hf hfl ht
    refine ⟨hf ▸ h.one, fun i hi => ?_, ht ▸ h.running⟩
    rcases hmem i hi with hi | ⟨t, rfl, -⟩
    · rw [hf, hfl]
      exact h.owner i hi
    · exact absurd rfl (hne t)
  cases he with
  | flushStart _ =>
    have hnil : s.flushers = [] := ha.2
    refine ⟨by simp [hnil], fun i hi => ?_, h.running⟩
    obtain ⟨t, ht, -⟩ := h.owner i hi
    rw [hnil] at ht
    cases ht
  | @flushEnter t _ ht hs hm =>
    refine ⟨h.one, fun i hi => ?_, h.running⟩
    by_cases hi' : i = (s.flush t).cpu
    · exact ⟨t, ht, by simp [hi'], by simp⟩
    · rw [Function.update_of_ne hi'] at hi
      exact absurd hs (h.only ht hi).2
  | @flushLeave t since ht hs hm _ =>
    refine ⟨h.one, fun i hi => ?_, h.running⟩
    have hcpu := (h.only ht hi).1
    exact absurd (hcpu ▸ hi) hm
  | flushAbandon _ hterm =>
    rw [h.running] at hterm
    cases hterm
  | @flushEnd t ht hs =>
    refine ⟨(List.length_erase_le ..).trans h.one, fun i hi => ?_, h.running⟩
    exact absurd hs (h.only ht hi).2
  | terminate => exact ha.2.elim
  | _ => exact hkeep nofun rfl rfl rfl

/-! ## The situation of an insert -/

/-- The calls of a routine made for the insert with number `t`. -/
def executions (t : Nat) (log : List Event) : List Event :=
  log.filter fun e =>
    match e with
    | .executed _ item _ => item.ticket == t
    | _ => false

/-- The three situations of the insert that `item` stems from; each of them excludes the others,
since it says how often the insert was removed, dequeued and executed. -/
inductive Situation (s : State) (q : Queues) (item : WorkItem) (i : Cpu) : Prop
  | queued (hq : .entry item.dpc ∈ q i) (ht : s.itemOf item.dpc = item)
      (hr : s.log.count (.removed item.ticket) = 0)
      (hd : s.log.count (.dequeued item.ticket) = 0)
      (hx : executions item.ticket s.log = [])
  | removed (hq : item.ticket ∉ tickets s.ticket (q i))
      (hr : s.log.count (.removed item.ticket) = 1)
      (hd : s.log.count (.dequeued item.ticket) = 0)
      (hx : executions item.ticket s.log = [])
  | dequeued (hq : item.ticket ∉ tickets s.ticket (q i))
      (hr : s.log.count (.removed item.ticket) = 0)
      (hd : s.log.count (.dequeued item.ticket) = 1)
      (hx : s.workers i = .dequeued item ∧ executions item.ticket s.log = [] ∨
        ∃ routine, executions item.ticket s.log = [.executed i item routine])

/-- The calls made for an insert are counted by the timeline of its CPU. -/
theorem length_executions (t : Nat) (i : Cpu) (log : List Event)
    (h : ∀ j item r, .executed j item r ∈ log → item.ticket = t → j = i) :
    (executions t log).length = (executedOn i log).count t := by
  induction log with
  | nil => rfl
  | cons e log ih =>
    have ih := ih fun j item r hm => h j item r (List.mem_cons_of_mem _ hm)
    rw [executedOn_cons, List.count_append, ← ih]
    cases e with
    | executed j item r =>
      by_cases ht : item.ticket = t
      · have hj : j = i := h j item r (List.mem_cons_self ..) ht
        simp [executions, executedTicket, ht, hj, Nat.add_comm]
      · by_cases hj : j = i <;> simp [executions, executedTicket, ht, hj]
    | _ => simp [executions, executedTicket]

/-- Two items with the same number stem from the same insert. -/
theorem Account.item_unique (h : Account s q) {item x : WorkItem} {i j : Cpu}
    (hi : item.insertion i ∈ s.log) (hx : x.insertion j ∈ s.log)
    (ht : x.ticket = item.ticket) : j = i ∧ x = item := by
  unfold WorkItem.insertion at hi hx
  rw [ht] at hx
  obtain ⟨hd, hij, hc, ha, hb⟩ := h.inserted_unique _ _ _ _ _ _ _ _ _ _ _ hx hi
  refine ⟨hij, ?_⟩
  cases x
  cases item
  simp_all

theorem Account.executed_item (h : Account s q) {item x : WorkItem} {i j : Cpu} {r : Ptr}
    (hi : item.insertion i ∈ s.log) (hx : .executed j x r ∈ s.log)
    (ht : x.ticket = item.ticket) : j = i ∧ x = item :=
  h.item_unique hi (h.executed_inserted j x r hx) ht

/-- An insert whose number is not among those its CPU has executed was never executed. -/
theorem Account.executions_nil (h : Account s q) {item : WorkItem} {i : Cpu}
    (hi : item.insertion i ∈ s.log) (hx : item.ticket ∉ executedOn i s.log) :
    executions item.ticket s.log = [] := by
  have hlen := length_executions item.ticket i s.log
    fun j x r hm ht => (h.executed_item hi hm ht).1
  rw [List.count_eq_zero.mpr hx] at hlen
  exact List.length_eq_zero_iff.mp hlen

/-- What one CPU has executed, newest first, is in the order of the inserts. -/
theorem Account.executed_sorted (h : Account s q) (i : Cpu) :
    (executedOn i s.log).Pairwise (· > ·) :=
  (List.pairwise_append.mp (List.pairwise_append.mp (h.sorted i)).2.1).2.1

theorem Account.executions_one (h : Account s q) {item : WorkItem} {i : Cpu}
    (hi : item.insertion i ∈ s.log) (hx : item.ticket ∈ executedOn i s.log) :
    ∃ routine, executions item.ticket s.log = [.executed i item routine] := by
  have hlen := length_executions item.ticket i s.log
    fun j x r hm ht => (h.executed_item hi hm ht).1
  have hnd : (executedOn i s.log).Nodup :=
    (h.executed_sorted i).imp fun hgt => (Nat.ne_of_lt hgt).symm
  rw [List.count_eq_one_of_mem hnd hx] at hlen
  obtain ⟨e, he⟩ := List.length_eq_one_iff.mp hlen
  have hmem : e ∈ executions item.ticket s.log := by rw [he]; exact List.mem_singleton_self _
  obtain ⟨hlog, hticket⟩ := List.mem_filter.mp hmem
  cases e with
  | executed j x r =>
    obtain ⟨rfl, rfl⟩ := h.executed_item hi hlog (by simpa using hticket)
    exact ⟨r, he⟩
  | _ => cases hticket

theorem Account.executed_not_pending (h : Account s q) {t : Nat} {i : Cpu}
    (hp : t ∈ pendingOf (s.workers i)) : t ∉ executedOn i s.log := by
  intro hx
  have hlow := (List.pairwise_append.mp (h.sorted i)).2.1
  exact lt_irrefl _ ((List.pairwise_append.mp hlow).2.2 t hp t hx)

theorem Account.situation (h : Account s q) {item : WorkItem} {i : Cpu}
    (hi : item.insertion i ∈ s.log) : Situation s q item i := by
  cases h.place _ _ _ _ _ _ hi with
  | queued hq hr hd =>
    obtain ⟨e, he, het⟩ := mem_tickets.mp hq
    obtain ⟨-, hitem⟩ := h.item_unique hi (h.queued_inserted i e he) het
    have hx : item.ticket ∉ executedOn i s.log := fun hx =>
      h.queued_not_executed hq (List.mem_append_right _ hx)
    rw [← hitem]
    rw [← hitem] at hr hd hx hi
    exact .queued he rfl hr hd (h.executions_nil hi hx)
  | removed hq hr hd hx =>
    exact .removed hq hr hd (h.executions_nil hi fun hm => hx (List.mem_append_right _ hm))
  | dequeued hq hr hd hx _ =>
    refine .dequeued hq hr hd ?_
    rcases List.mem_append.mp hx with hp | hx
    · left
      cases hw : s.workers i with
      | dequeued x =>
        have ht : x.ticket = item.ticket := by
          rw [hw] at hp
          exact (List.mem_singleton.mp hp).symm
        obtain ⟨-, rfl⟩ := h.item_unique hi (h.held_inserted i x (Or.inl hw)) ht
        exact ⟨rfl, h.executions_nil hi (h.executed_not_pending hp)⟩
      | _ =>
        rw [hw] at hp
        cases hp
    · exact Or.inr (h.executions_one hi hx)

/-! ## After every run -/

/-- The queues are lists that account for every insert, and only the flush in progress has a marker
in one of them. -/
structure Accounted (s : State) (q : Queues) : Prop where
  rep : s.Rep q
  account : Account s q
  owned : MarkerOwned s q

theorem accounted_init (dpcs : DpcId → Kdpc) : Accounted (State.init dpcs) fun _ => [] :=
  ⟨rep_init dpcs, account_init dpcs, markerOwned_init dpcs⟩

theorem Accounted.step (h : Accounted s q) (ha : OneFlush n s a) (hs : step n s a = some s') :
    ∃ q', Accounted s' q' := by
  obtain ⟨q', he, hr'⟩ := step_effect h.rep ha.1 (ha.markerFree h.owned h.rep hs) hs
  exact ⟨q', hr', account_step h.account h.rep he, h.owned.step ha he⟩

end Usersim.Dpc
