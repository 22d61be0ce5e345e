import Usersim.Dpc.Account

/-!
# What a flush waits for

`flush_queue` puts the one marker of the queue behind everything that is queued and waits until
the marker is linked to itself again. As long as no flush takes the mutex while the marker of an
earlier flush is still queued (`MarkerFree`), the marker stays behind every insert a waiting flush
has to wait for (`Ahead`), and the flush is a barrier:

* `barrier_step` — one action keeps the invariant of all waiting flushes
* `flush_barrier` — after every such run, each flush that returned waited for all earlier inserts
* `overlapping_flush` — two overlapping flushes: the second unlinks the marker, returns at once
  and leaves a broken ring behind
-/

namespace Usersim.Dpc

open Lib Framework

variable {n : Nat} {s s' : State} {q q' : Queues} {a : Action}

/-- The insert has been removed, or its routine has returned. -/
def Done (log : List Event) (t : Nat) : Prop := .removed t ∈ log ∨ .finished t ∈ log

/-- The marker of CPU `i` is queued, and the insert is held by the worker or queued before it. -/
def Ahead (s : State) (q : Queues) (i : Cpu) (t : Nat) : Prop :=
  ∃ l₁ l₂, q i = l₁ ++ .flushEntry i :: l₂ ∧
    (t ∈ tickets s.ticket l₁ ∨ ∃ item, Holds (s.workers i) item ∧ item.ticket = t)

/-- What the flushes that wait now, and those that have returned, can rely on. -/
structure Barrier (s : State) (q : Queues) : Prop where
  since_le : ∀ t ∈ s.flushers, ∀ m, (s.flush t).since = some m → m ≤ s.nextTicket
  waiting : ∀ t ∈ s.flushers, ∀ m, (s.flush t).since = some m → ∀ u d c a b,
    .inserted u d (s.flush t).cpu c a b ∈ s.log → u < m →
      Done s.log u ∨ Ahead s q (s.flush t).cpu u
  flushed : ∀ i m, .flushed i m ∈ s.log → ∀ u d c a b, .inserted u d i c a b ∈ s.log → u < m →
    Done s.log u
  flushed_le : ∀ i m, .flushed i m ∈ s.log → m ≤ s.nextTicket

theorem barrier_init (dpcs : DpcId → Kdpc) : Barrier (State.init dpcs) fun _ => [] where
  since_le := fun _ h => absurd h List.not_mem_nil
  waiting := fun _ h => absurd h List.not_mem_nil
  flushed := fun _ _ h => absurd h List.not_mem_nil
  flushed_le := fun _ _ h => absurd h List.not_mem_nil

theorem Done.mono {log log' : List Event} (hsub : log ⊆ log') {t : Nat} (h : Done log t) :
    Done log' t := h.imp (fun hm => hsub hm) fun hm => hsub hm

/-! ## The insert stays ahead of the marker -/

theorem Ahead.marker_mem {i : Cpu} {t : Nat} (h : Ahead s q i t) : .flushEntry i ∈ q i := by
  obtain ⟨l₁, l₂, hq, -⟩ := h
  simp [hq]

/-- Cells may leave the part behind the marker, or join it. -/
theorem Ahead.same {i : Cpu} {t : Nat} (h : Ahead s q i t) (hq : q' i = q i)
    (hticket : ∀ d, .entry d ∈ q i → s'.ticket d = s.ticket d)
    (hworker : ∀ item, Holds (s.workers i) item → Holds (s'.workers i) item) :
    Ahead s' q' i t := by
  obtain ⟨l₁, l₂, hl, ht⟩ := h
  refine ⟨l₁, l₂, hq.trans hl, ht.imp (fun ht => ?_) ?_⟩
  · obtain ⟨d, hd, rfl⟩ := mem_tickets.mp ht
    exact mem_tickets.mpr ⟨d, hd, hticket d (by simp [hl, hd])⟩
  · rintro ⟨item, hi, rfl⟩
    exact ⟨item, hworker item hi, rfl⟩

theorem Ahead.append {i : Cpu} {t : Nat} {c : Cell} (h : Ahead s q i t) (hq : q' i = q i ++ [c])
    (hticket : ∀ d, .entry d ∈ q i → s'.ticket d = s.ticket d)
    (hworker : s'.workers = s.workers) : Ahead s' q' i t := by
  obtain ⟨l₁, l₂, hl, ht⟩ := h
  refine ⟨l₁, l₂ ++ [c], by rw [hq, hl]; simp, ht.imp (fun ht => ?_) (hworker ▸ id)⟩
  obtain ⟨d, hd, rfl⟩ := mem_tickets.mp ht
  exact mem_tickets.mpr ⟨d, hd, hticket d (by simp [hl, hd])⟩

/-- Taking a DPC out of the queue moves only that DPC's own insert. -/
theorem Ahead.erase {i : Cpu} {t : Nat} {d : DpcId} (h : Ahead s q i t)
    (hq : q' i = (q i).erase (.entry d)) (hticket : s'.ticket = s.ticket)
    (hworker : s'.workers = s.workers) : t = s.ticket d ∨ Ahead s' q' i t := by
  obtain ⟨l₁, l₂, hl, ht⟩ := h
  have herase : q' i = l₁.erase (.entry d) ++ .flushEntry i :: l₂.erase (.entry d) ∨
      q' i = l₁.erase (.entry d) ++ .flushEntry i :: l₂ := by
    rw [hq, hl]
    by_cases hm : .entry d ∈ l₁
    · right
      rw [List.erase_append_left _ hm]
    · left
      rw [List.erase_append_right _ hm, List.erase_of_not_mem hm,
        List.erase_cons_tail (by simp)]
  have hmem : t ∈ tickets s.ticket l₁ →
      t = s.ticket d ∨ t ∈ tickets s.ticket (l₁.erase (.entry d)) := by
    intro ht
    obtain ⟨e, he, rfl⟩ := mem_tickets.mp ht
    by_cases hed : e = d
    · exact Or.inl (by rw [hed])
    · exact Or.inr (mem_tickets.mpr ⟨e, (List.mem_erase_of_ne (by simpa using hed)).mpr he, rfl⟩)
  have hkeep : t ∈ tickets s.ticket (l₁.erase (.entry d)) ∨
      (∃ item, Holds (s.workers i) item ∧ item.ticket = t) → Ahead s' q' i t := by
    intro ht
    rcases herase with he | he
    all_goals
      refine ⟨_, _, he, ?_⟩
      rw [hticket, hworker]
      exact ht
  rcases ht with ht | ht
  · exact (hmem ht).imp_right fun ht => hkeep (Or.inl ht)
  · exact Or.inr (hkeep (Or.inr ht))

/-- When the worker pops the marker, nothing is ahead of it. -/
theorem Ahead.not_popMarker {i : Cpu} {t : Nat} {l : List Cell} (hnd : (q i).Nodup)
    (hw : s.workers i = .ready) (hq : q i = .flushEntry i :: l) : ¬ Ahead s q i t := by
  rintro ⟨l₁, l₂, hl, ht⟩
  have hnil : l₁ = [] := by
    rw [hq] at hl hnd
    cases l₁ with
    | nil => rfl
    | cons c l₁ =>
      injection hl with hc hl
      exact absurd (hl ▸ by simp) (List.nodup_cons.mp hnd).1
  rcases ht with ht | ⟨item, hi, -⟩
  · rw [hnil] at ht
    cases ht
  · rw [hw] at hi
    exact hi.elim nofun nofun

/-- When the worker pops a DPC, that insert is held by the worker and the others stay ahead. -/
theorem Ahead.popEntry {i : Cpu} {t : Nat} {d : DpcId} {l : List Cell} (h : Ahead s q i t)
    (hw : s.workers i = .ready) (hq : q i = .entry d :: l) (hq' : q' i = l)
    (hticket : s'.ticket = s.ticket) (hw' : s'.workers i = .dequeued (s.itemOf d)) :
    Ahead s' q' i t := by
  obtain ⟨l₁, l₂, hl, ht⟩ := h
  have ht : t ∈ tickets s.ticket l₁ := ht.resolve_right fun ⟨item, hi, _⟩ => by
    rw [hw] at hi
    exact hi.elim nofun nofun
  cases l₁ with
  | nil => cases ht
  | cons c l₁ =>
    rw [hq] at hl
    injection hl with hc hl
    subst hc
    refine ⟨l₁, l₂, hq'.trans hl, ?_⟩
    rw [hticket]
    rcases List.mem_cons.mp (tickets_entry s.ticket d l₁ ▸ ht) with rfl | ht
    · exact Or.inr ⟨s.itemOf d, Or.inl hw', rfl⟩
    · exact Or.inl ht

/-! ## One action -/

/--
An action keeps the barrier if it lets no insert get behind the marker, if its new inserts have
new numbers, and if the flushes that start waiting or return have reason to.
-/
theorem Barrier.keep (h : Barrier s q) (hsub : s.log ⊆ s'.log)
    (hnext : s.nextTicket ≤ s'.nextTicket)
    (hwait : ∀ t ∈ s'.flushers, ∀ m, (s'.flush t).since = some m →
      (t ∈ s.flushers ∧ s'.flush t = s.flush t) ∨
      (m ≤ s.nextTicket ∧ ∀ u d c a b, .inserted u d (s'.flush t).cpu c a b ∈ s.log →
        Done s'.log u ∨ Ahead s' q' (s'.flush t).cpu u))
    (hnew : ∀ u d i c a b, .inserted u d i c a b ∈ s'.log →
      .inserted u d i c a b ∈ s.log ∨ s.nextTicket ≤ u)
    (hflushed : ∀ i m, .flushed i m ∈ s'.log → .flushed i m ∈ s.log ∨
      (m ≤ s.nextTicket ∧ ∀ u d c a b, .inserted u d i c a b ∈ s.log → u < m → Done s.log u))
    (hahead : ∀ i u, Ahead s q i u → Done s'.log u ∨ Ahead s' q' i u) : Barrier s' q' := by
  refine ⟨fun t ht m hm => ?_, fun t ht m hm u d c a b hu hlt => ?_,
    fun i m hm u d c a b hu hlt => ?_, fun i m hm => ?_⟩
  · rcases hwait t ht m hm with ⟨ht, hf⟩ | ⟨hle, -⟩
    · exact (h.since_le t ht m (hf ▸ hm)).trans hnext
    · exact hle.trans hnext
  · rcases hwait t ht m hm with ⟨ht, hf⟩ | ⟨hle, hall⟩
    · rw [hf] at hm hu ⊢
      rcases hnew u d _ c a b hu with hu | hge
      · rcases h.waiting t ht m hm u d c a b hu hlt with hd | ha
        · exact Or.inl (hd.mono hsub)
        · exact hahead _ u ha
      · have hle := h.since_le t ht m hm
        omega
    · rcases hnew u d _ c a b hu with hu | hge
      · exact hall u d c a b hu
      · omega
  · rcases hflushed i m hm with hm | ⟨hle, hall⟩
    · rcases hnew u d i c a b hu with hu | hge
      · exact (h.flushed i m hm u d c a b hu hlt).mono hsub
      · have hle := h.flushed_le i m hm
        omega
    · rcases hnew u d i c a b hu with hu | hge
      · exact (hall u d c a b hu hlt).mono hsub
      · omega
  · rcases hflushed i m hm with hm | ⟨hle, -⟩
    · exact (h.flushed_le i m hm).trans hnext
    · exact hle.trans hnext

/-- An insert, or the return of a flush. -/
def Event.Marks : Event → Prop
  | .inserted .. | .flushed .. => True
  | _ => False

theorem mem_of_unmarked {e x : Event} {log : List Event} (he : ¬ e.Marks) (hx : x.Marks)
    (h : x ∈ e :: log) : x ∈ log :=
  mem_of_cons h fun hxe => he (hxe ▸ hx)

/-- The same for an action that starts no flush and ends none, and inserts nothing. -/
theorem Barrier.keep_flushes (h : Barrier s q) (hsub : s.log ⊆ s'.log)
    (hlog : ∀ x : Event, x.Marks → x ∈ s'.log → x ∈ s.log)
    (hnext : s'.nextTicket = s.nextTicket)
    (hflush : ∀ t ∈ s'.flushers, (s'.flush t).since = none ∨
      t ∈ s.flushers ∧ s'.flush t = s.flush t)
    (hahead : ∀ i u, Ahead s q i u → Done s'.log u ∨ Ahead s' q' i u) : Barrier s' q' := by
  refine h.keep hsub hnext.ge (fun t ht m hm => Or.inl ?_)
    (fun u d i c a b hu => Or.inl (hlog _ trivial hu))
    (fun i m hm => Or.inl (hlog _ trivial hm)) hahead
  rcases hflush t ht with hn | hf
  · rw [hn] at hm
    cases hm
  · exact hf

theorem barrier_keInsertQueueDpc {d : DpcId} {a1 a2 : Ptr} (h : Barrier s q) (hr : s.Rep q)
    (he : Effect n s q (.keInsertQueueDpc d a1 a2) s' q') : Barrier s' q' := by
  cases he with
  | insertRefused _ =>
    exact h.keep_flushes (List.subset_cons_self ..) (fun _ => mem_of_unmarked id) rfl
      (fun t ht => Or.inr ⟨ht, rfl⟩)
      fun i u ha => Or.inr (ha.same rfl (fun _ _ => rfl) fun _ => id)
  | @inserted d a1 a2 L _ hd =>
    have hticket : ∀ i e, .entry e ∈ q i →
        Function.update s.ticket d s.nextTicket e = s.ticket e := by
      intro i e he
      refine Function.update_of_ne ?_ _ _
      rintro rfl
      rw [← Rep.mem_entry hr he] at he
      exact hd he
    refine h.keep (List.subset_cons_self ..) (Nat.le_succ _)
      (fun t ht m _ => Or.inl ⟨ht, rfl⟩) (fun u e i c a b hu => ?_)
      (fun i m hm => Or.inl (mem_of_cons hm nofun)) (fun i u ha => Or.inr ?_)
    · rcases List.mem_cons.mp hu with hu | hu
      · cases hu
        exact Or.inr le_rfl
      · exact Or.inl hu
    · by_cases hi : i = s.cpuOf d
      · subst hi
        exact ha.append (Function.update_self ..) (hticket _) rfl
      · exact ha.same (Function.update_of_ne hi _ _) (hticket _) fun _ => id

theorem barrier_keRemoveQueueDpc {d : DpcId} (h : Barrier s q)
    (he : Effect n s q (.keRemoveQueueDpc d) s' q') : Barrier s' q' := by
  cases he with
  | removeRefused _ =>
    exact h.keep_flushes (List.subset_cons_self ..) (fun _ => mem_of_unmarked id) rfl
      (fun t ht => Or.inr ⟨ht, rfl⟩)
      fun i u ha => Or.inr (ha.same rfl (fun _ _ => rfl) fun _ => id)
  | @removed d L hd =>
    refine h.keep_flushes (List.subset_cons_self ..) (fun _ => mem_of_unmarked id) rfl
      (fun t ht => Or.inr ⟨ht, rfl⟩) fun i u ha => ?_
    by_cases hi : i = s.cpuOf d
    · subst hi
      refine (ha.erase (Function.update_self ..) rfl rfl).imp_left ?_
      rintro rfl
      exact Or.inl (List.mem_cons_self ..)
    · exact Or.inr (ha.same (Function.update_of_ne hi _ _) (fun _ _ => rfl) fun _ => id)

theorem barrier_workerPop {i : Cpu} (h : Barrier s q) (hr : s.Rep q)
    (he : Effect n s q (.workerPop i) s' q') : Barrier s' q' := by
  have hnd : (q i).Nodup := (List.nodup_cons.mp (hr.ring i).nodup).2
  cases he with
  | @popMarker i l L hw hq =>
    refine h.keep_flushes (List.Subset.refl _) (fun _ _ hx => hx) rfl
      (fun t ht => Or.inr ⟨ht, rfl⟩) fun j u ha => ?_
    by_cases hj : j = i
    · subst hj
      exact absurd ha (Ahead.not_popMarker hnd hw hq)
    · exact Or.inr (ha.same (Function.update_of_ne hj _ _) (fun _ _ => rfl) fun _ => id)
  | @popEntry i d l L hw hq =>
    refine h.keep_flushes (List.subset_cons_self ..) (fun _ => mem_of_unmarked id) rfl
      (fun t ht => Or.inr ⟨ht, rfl⟩) fun j u ha => Or.inr ?_
    by_cases hj : j = i
    · subst hj
      exact ha.popEntry hw hq (Function.update_self ..) rfl (Function.update_self ..)
    · refine ha.same (Function.update_of_ne hj _ _) (fun _ _ => rfl) fun item hi => ?_
      simpa only [Function.update_of_ne hj] using hi

theorem barrier_workerCall {i : Cpu} (h : Barrier s q)
    (he : Effect n s q (.workerCall i) s' q') : Barrier s' q' := by
  cases he with
  | @workerCall i item hw =>
    refine h.keep_flushes (List.subset_cons_self ..) (fun _ => mem_of_unmarked id) rfl
      (fun t ht => Or.inr ⟨ht, rfl⟩)
      fun j u ha => Or.inr (ha.same rfl (fun _ _ => rfl) fun x hx => ?_)
    by_cases hj : j = i
    · subst hj
      rw [hw] at hx
      rcases hx with hx | hx
      · cases hx
        exact Or.inr (Function.update_self ..)
      · cases hx
    · simpa only [Function.update_of_ne hj] using hx

theorem barrier_workerReturn {i : Cpu} (h : Barrier s q)
    (he : Effect n s q (.workerReturn i) s' q') : Barrier s' q' := by
  cases he with
  | @workerReturn i item hw =>
    refine h.keep_flushes (List.subset_cons_self ..) (fun _ => mem_of_unmarked id) rfl
      (fun t ht => Or.inr ⟨ht, rfl⟩) fun j u ha => ?_
    by_cases hj : j = i
    · subst hj
      -- what the worker held is finished now; what is queued before the marker stays there
      obtain ⟨l₁, l₂, hl, ht | ⟨x, hx, rfl⟩⟩ := ha
      · exact Or.inr ⟨l₁, l₂, hl, Or.inl ht⟩
      · rw [hw] at hx
        rcases hx with hx | hx
        · cases hx
        · cases hx
          exact Or.inl (Or.inr (List.mem_cons_self ..))
    · refine Or.inr (ha.same rfl (fun _ _ => rfl) fun x hx => ?_)
      simpa only [Function.update_of_ne hj] using hx

theorem barrier_workerExit {i : Cpu} (h : Barrier s q)
    (he : Effect n s q (.workerExit i) s' q') : Barrier s' q' := by
  cases he with
  | @workerExit i hw _ =>
    refine h.keep_flushes (List.Subset.refl _) (fun _ _ hx => hx) rfl
      (fun t ht => Or.inr ⟨ht, rfl⟩)
      fun j u ha => Or.inr (ha.same rfl (fun _ _ => rfl) fun x hx => ?_)
    by_cases hj : j = i
    · subst hj
      rw [hw] at hx
      exact hx.elim nofun nofun
    · simpa only [Function.update_of_ne hj] using hx

theorem barrier_flushEnter {t : Tid} (h : Barrier s q) (hacc : Account s q)
    (he : Effect n s q (.flushEnter t) s' q') : Barrier s' q' := by
  cases he with
  | @flushEnter t L ht hs hm =>
    refine h.keep (List.Subset.refl _) le_rfl (fun u hu m hsince => ?_)
      (fun u d i c a b hu => Or.inl hu) (fun i m hm => Or.inl hm) fun i u ha => Or.inr ?_
    · by_cases hut : u = t
      · -- everything that is queued now is before the new marker
        subst hut
        simp only [Function.update_self, Option.some.injEq] at hsince ⊢
        refine Or.inr ⟨hsince.ge, fun v d c a b hv => ?_⟩
        cases hacc.place v d _ c a b hv with
        | queued hq _ _ => exact Or.inr ⟨_, [], Function.update_self .., Or.inl hq⟩
        | removed _ hr _ _ =>
          exact Or.inl (Or.inl (List.count_pos_iff.mp (by omega)))
        | dequeued _ _ _ _ hf =>
          rcases hf with hf | hf
          · exact Or.inr ⟨_, [], Function.update_self .., Or.inr hf⟩
          · exact Or.inl (Or.inr hf)
      · exact Or.inl ⟨hu, Function.update_of_ne hut _ _⟩
    · by_cases hi : i = (s.flush t).cpu
      · subst hi
        exact absurd ha.marker_mem hm
      · exact ha.same (Function.update_of_ne hi _ _) (fun _ _ => rfl) fun _ => id

theorem barrier_flushLeave {t : Tid} (h : Barrier s q)
    (he : Effect n s q (.flushLeave t) s' q') : Barrier s' q' := by
  cases he with
  | @flushLeave t since ht hs hm _ =>
    refine h.keep (List.subset_cons_self ..) le_rfl (fun u hu m hsince => ?_)
      (fun u d i c a b hu => Or.inl (mem_of_cons hu nofun)) (fun i m hf => ?_)
      fun i u ha => Or.inr (ha.same rfl (fun _ _ => rfl) fun _ => id)
    · by_cases hut : u = t
      · subst hut
        simp at hsince
      · exact Or.inl ⟨hu, Function.update_of_ne hut _ _⟩
    · rcases List.mem_cons.mp hf with hf | hf
      · cases hf
        refine Or.inr ⟨h.since_le t ht _ hs, fun u d c a b hu hlt => ?_⟩
        exact (h.waiting t ht _ hs u d c a b hu hlt).resolve_right fun ha => hm ha.marker_mem
      · exact Or.inl hf
  | @flushAbandon t ht _ =>
    refine h.keep_flushes (List.Subset.refl _) (fun _ _ hx => hx) rfl (fun u hu => ?_)
      fun i u ha => Or.inr (ha.same rfl (fun _ _ => rfl) fun _ => id)
    by_cases hut : u = t
    · subst hut
      exact Or.inl (by simp)
    · exact Or.inr ⟨hu, Function.update_of_ne hut _ _⟩

theorem barrier_step (h : Barrier s q) (hacc : Account s q) (hr : s.Rep q)
    (he : Effect n s q a s' q') : Barrier s' q' := by
  have he' := he
  cases he with
  | keInitializeDpc | keSetTargetProcessorDpc | terminate =>
    exact h.keep_flushes (List.Subset.refl _) (fun _ _ hx => hx) rfl (fun t ht => Or.inr ⟨ht, rfl⟩)
      fun i u ha => Or.inr (ha.same rfl (fun _ _ => rfl) fun _ => id)
  | insertRefused | inserted => exact barrier_keInsertQueueDpc h hr he'
  | removeRefused | removed => exact barrier_keRemoveQueueDpc h he'
  | popMarker | popEntry => exact barrier_workerPop h hr he'
  | workerCall => exact barrier_workerCall h he'
  | workerReturn => exact barrier_workerReturn h he'
  | workerExit => exact barrier_workerExit h he'
  | @flushStart t ht =>
    refine h.keep_flushes (List.Subset.refl _) (fun _ _ hx => hx) rfl (fun u hu => ?_)
      fun i u ha => Or.inr (ha.same rfl (fun _ _ => rfl) fun _ => id)
    by_cases hut : u = t
    · subst hut
      exact Or.inl (by simp)
    · exact Or.inr ⟨(List.mem_cons.mp hu).resolve_left hut, Function.update_of_ne hut _ _⟩
  | flushEnter => exact barrier_flushEnter h hacc he'
  | flushLeave | flushAbandon => exact barrier_flushLeave h he'
  | @flushEnd t ht hs =>
    exact h.keep_flushes (List.Subset.refl _) (fun _ _ hx => hx) rfl
      (fun u hu => Or.inr ⟨List.mem_of_mem_erase hu, rfl⟩)
      fun i u ha => Or.inr (ha.same rfl (fun _ _ => rfl) fun _ => id)

/-! ## Runs -/

/-- Every flush of a queue that returned waited for all inserts made before it took the mutex, and
the links of every queue form a ring. -/
def FlushBarrier (s : State) : Prop :=
  (∀ i m, .flushed i m ∈ s.log → ∀ u d c a b, .inserted u d i c a b ∈ s.log → u < m →
    .removed u ∈ s.log ∨ .finished u ∈ s.log) ∧
  ∃ q, s.Rep q

/-- The callers keep their promises, and no flush takes the mutex while the marker of an earlier
one is queued. -/
def ApartFlush (n : Nat) (s : State) (a : Action) : Prop := Admissible n s a ∧ MarkerFree s a

instance (n : Nat) (s : State) (a : Action) : Decidable (ApartFlush n s a) :=
  match a with
  | .flushEnter t => inferInstanceAs (Decidable (_ ∧
      usersimListIsEmpty s.links (.flushEntry (s.flush t).cpu) = true))
  | .keInitializeDpc _ _ _ | .keSetTargetProcessorDpc _ _ | .keInsertQueueDpc _ _ _
  | .keRemoveQueueDpc _ | .workerPop _ | .workerCall _ | .workerReturn _ | .workerExit _
  | .flushStart _ | .flushLeave _ | .flushEnd _ | .terminate _ =>
    inferInstanceAs (Decidable (_ ∧ True))

theorem flush_barrier (n : Nat) (dpcs : DpcId → Kdpc) (as : List Action) (s : State)
    (hg : Guarded (step n) (ApartFlush n) (State.init dpcs) as)
    (hs : exec (step n) (State.init dpcs) as = some s) : FlushBarrier s := by
  have hinv : ∃ q, s.Rep q ∧ Account s q ∧ Barrier s q := by
    refine exec_invariant_of_guard
      (P := fun s => ∃ q, s.Rep q ∧ Account s q ∧ Barrier s q) ?_ ?_ hg hs
    · rintro s a s' ⟨q, hr, hacc, hb⟩ ha hstep
      obtain ⟨q', he, hr'⟩ := step_effect hr ha.1 ha.2 hstep
      exact ⟨q', hr', account_step hacc hr he, barrier_step hb hacc hr he⟩
    · exact ⟨_, rep_init dpcs, account_init dpcs, barrier_init dpcs⟩
  obtain ⟨q, hr, -, hb⟩ := hinv
  exact ⟨hb.flushed, q, hr⟩

def freshDpc : Kdpc where
  context := 0
  cpuId := 0
  parameter1 := 0
  parameter2 := 0
  workItemRoutine := 0

/-- Two flushes one after the other, the second while the first has not returned yet. -/
def apartRun : List Action :=
  [.keInsertQueueDpc 0 1 2, .flushStart 1, .flushEnter 1, .workerPop 0, .workerCall 0,
   .workerReturn 0, .workerPop 0, .flushStart 2, .flushEnter 2, .workerPop 0, .flushLeave 1,
   .flushLeave 2]

theorem apartRun_barrier :
    ∃ s, exec (step 1) (State.init fun _ => freshDpc) apartRun = some s ∧
      .flushed 0 1 ∈ s.log ∧ FlushBarrier s := by
  obtain ⟨s, hs, hx⟩ : ∃ s, exec (step 1) (State.init fun _ => freshDpc) apartRun = some s ∧
      .flushed 0 1 ∈ s.log := exec_of_check (by decide +kernel)
  exact ⟨s, hs, hx, flush_barrier 1 (fun _ => freshDpc) apartRun s
    (guarded_of_check (by decide +kernel)) hs⟩

/-- The second flush takes the mutex while the first waits for its marker. -/
def overlappingRun : List Action :=
  [.keInsertQueueDpc 0 1 2, .flushStart 1, .flushEnter 1, .flushStart 2, .flushEnter 2,
   .flushLeave 2]

theorem overlapping_flush :
    ∃ s, exec (step 1) (State.init fun _ => freshDpc) overlappingRun = some s ∧
      Guarded (step 1) (Admissible 1) (State.init fun _ => freshDpc) overlappingRun ∧
      (.flushed 0 1 ∈ s.log ∧ .inserted 0 0 0 0 1 2 ∈ s.log ∧ .removed 0 ∉ s.log ∧
        .finished 0 ∉ s.log) ∧
      (¬ ∃ q, s.Rep q) ∧ ¬ FlushBarrier s := by
  obtain ⟨s, hs, hlog, hself, hblink⟩ :
      ∃ s, exec (step 1) (State.init fun _ => freshDpc) overlappingRun = some s ∧
        (.flushed 0 1 ∈ s.log ∧ .inserted 0 0 0 0 1 2 ∈ s.log ∧ .removed 0 ∉ s.log ∧
          .finished 0 ∉ s.log) ∧
        usersimListIsEmpty s.links (.flushEntry 0) = true ∧
        s.links.blink (.head 0) = .flushEntry 0 :=
    exec_of_check (by decide +kernel)
  have hring : ¬ ∃ q, s.Rep q := by
    rintro ⟨q, hq⟩
    -- the head points back at the marker, so the marker is in the ring, yet linked to itself
    have hm := (hq.isEmpty_marker 0).mp hself
    have hlast := (hq.ring 0).blink_head_mem
    rw [hblink] at hlast
    exact hm ((List.mem_cons.mp hlast).resolve_left nofun)
  exact ⟨s, hs, guarded_of_check (by decide +kernel), hlog, hring, fun h => hring h.2⟩

end Usersim.Dpc
