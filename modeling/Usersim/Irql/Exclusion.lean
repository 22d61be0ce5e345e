import Usersim.Irql.Basic

/-!
# Mutual exclusion at dispatch level

A lower looks up the processor it runs on and unlocks that one's element, so everything rests on
the thread still being pinned to the processor of its raise. A raise skips the system call when
the cached affinity is already the one it wants. That is right although affinity calls made at
dispatch level put the cache out of step with the system, because of `InStep`: a cached affinity
of one processor is either the real one, or one the thread does not run on.

* `setAffinity_inStep`, `setAffinity_single` — the cache and the system after an affinity call
* `step_effect` — what an action does, and when it is taken
* `inv_step` — one action of any thread or worker keeps the invariant
* `dispatch_exclusion` — after every run, at most one party is at dispatch on a processor, a
  lower unlocks what the raise locked, and nobody below dispatch holds a dispatch lock
-/

namespace Usersim.Irql

open Lib

/-! ## The cached affinity -/

/-- The system runs the thread on `p` and nowhere else. -/
def Pinned (l : ThreadLocals) (p : Processor) : Prop := ∀ q, l.osAffinity q = true ↔ q = p

/-- A cached affinity of one processor that the thread can run on is the real affinity. -/
def InStep (l : ThreadLocals) : Prop :=
  ∀ p, l.groupAffinityCache = .single p → l.osAffinity p = true → Pinned l p

theorem single_contains (p q : Processor) : (GroupAffinity.single p).contains q = true ↔ q = p := by
  obtain ⟨gp, np⟩ := p
  obtain ⟨gq, nq⟩ := q
  simp only [GroupAffinity.contains, GroupAffinity.single, Bool.and_eq_true, beq_iff_eq,
    BitVec.getLsbD_shiftLeft, BitVec.getLsbD_one, Processor.mk.injEq, Fin.ext_iff]
  have hp := np.isLt
  have hq := nq.isLt
  refine and_congr_right fun _ => ?_
  simp
  omega

theorem single_mask_ne_zero (p : Processor) : (GroupAffinity.single p).mask ≠ 0 := by
  intro h
  have hp : (GroupAffinity.single p).mask.getLsbD p.number = true := by
    have := (single_contains p p).mpr rfl
    simp only [GroupAffinity.contains, Bool.and_eq_true] at this
    exact this.2
  rw [h] at hp
  simp at hp

variable {l l' : ThreadLocals} {new old : GroupAffinity} {r : OsReply} {p : Processor}

/-- Only the cache and the system's affinity change. -/
theorem setAffinity_frame (h : usersimSetCurrentThreadAffinity l new r = some (l', old)) :
    l' = { l with osAffinity := l'.osAffinity, groupAffinityCache := new } := by
  simp only [usersimSetCurrentThreadAffinity] at h
  split at h
  · next heq =>
    cases h
    rw [heq]
  · split at h
    · cases h
      rfl
    · split at h
      · cases h
        rfl
      · cases h

theorem setAffinity_inStep (hl : InStep l)
    (h : usersimSetCurrentThreadAffinity l new r = some (l', old)) : InStep l' := by
  simp only [usersimSetCurrentThreadAffinity] at h
  split at h
  · cases h
    exact hl
  · split at h
    · next hz =>
      cases h
      intro p hp
      exact absurd (hp ▸ hz) (single_mask_ne_zero p)
    · split at h
      · cases h
        intro p hp _ q
        have hnew : new = .single p := hp
        show new.contains q = true ↔ q = p
        rw [hnew]
        exact single_contains p q
      · cases h

/-- Whether the call is skipped or made, it pins the thread to the processor it runs on. -/
theorem setAffinity_single (hl : InStep l) (hp : l.osAffinity p = true)
    (h : usersimSetCurrentThreadAffinity l (.single p) r = some (l', old)) : Pinned l' p := by
  simp only [usersimSetCurrentThreadAffinity, single_mask_ne_zero, if_false] at h
  split at h
  · next heq =>
    cases h
    exact hl p heq.symm hp
  · split at h
    · cases h
      exact single_contains p
    · cases h

/-- Setting the level first makes the change of priority a no-op. -/
theorem setPriority_same {irql : Nat} (h : l.currentIrql = irql) :
    setCurrentThreadPriorityByIrql l irql r = some l := by
  simp [setCurrentThreadPriorityByIrql, h]

theorem setLoweredIrql_eq (l : ThreadLocals) (irql : Nat) (r : OsReply) :
    setLoweredIrql l irql r =
      { l with currentIrql := irql, saved := l.saved.tail, pc := .idle } := by
  simp only [setLoweredIrql, setPriority_same]

theorem kfRaiseIrql_nested {irql : Nat} {spin : Option Nat}
    (h : ¬ (dispatchLevel ≤ irql ∧ l.currentIrql < dispatchLevel)) :
    kfRaiseIrql l irql p spin r =
      { l with
        currentIrql := irql
        saved := l.currentIrql :: l.saved
        pc := .afterRaise spin } := by
  simp only [kfRaiseIrql, setPriority_same, if_neg h]

/-- A raise to dispatch level pins the thread, or stops it. -/
theorem kfRaiseIrql_dispatch {irql : Nat} (spin : Option Nat)
    (h : dispatchLevel ≤ irql ∧ l.currentIrql < dispatchLevel) (hl : InStep l)
    (hp : l.osAffinity p = true) :
    ∃ os cache before pc, kfRaiseIrql l irql p spin r =
      { l with
        currentIrql := irql
        saved := l.currentIrql :: l.saved
        osAffinity := os
        groupAffinityCache := cache
        groupBeforeRaiseIrql := before
        pc := pc } ∧
      InStep (kfRaiseIrql l irql p spin r) ∧
      (pc = .bugCheck ∨ pc = .raising p spin ∧ Pinned (kfRaiseIrql l irql p spin r) p) := by
  simp only [kfRaiseIrql, setPriority_same, if_pos h]
  cases hset : usersimSetCurrentThreadAffinity
      { l with currentIrql := irql, saved := l.currentIrql :: l.saved } (.single p) r with
  | none => exact ⟨_, _, _, _, rfl, hl, Or.inl rfl⟩
  | some res =>
    obtain ⟨l', old⟩ := res
    have hframe := setAffinity_frame hset
    have hl : InStep { l with currentIrql := irql, saved := l.currentIrql :: l.saved } := hl
    have hin : InStep l' := setAffinity_inStep hl hset
    have hpin : Pinned l' p := setAffinity_single hl hp hset
    refine ⟨l'.osAffinity, .single p, old, .raising p spin, ?_, hin, Or.inr ⟨rfl, hpin⟩⟩
    simp only
    rw [hframe]

/-! ## The invariant -/

/-- A thread is raised to dispatch level while it runs between its calls there, and its levels
are nested. -/
structure ThreadOk (l : ThreadLocals) : Prop where
  inStep : InStep l
  nested : (l.currentIrql :: l.saved).Pairwise (· ≥ ·)
  pinned : ∀ p, l.raisedOn = some p → Pinned l p
  phase : match l.pc with
    | .looping => False
    | .idle | .acquiring _ | .releasing => dispatchLevel ≤ l.currentIrql ↔ l.raisedOn ≠ none
    | .raising p _ => dispatchLevel ≤ l.currentIrql ∧ l.raisedOn = none ∧ Pinned l p
    | .lowering new => dispatchLevel ≤ l.currentIrql ∧ l.raisedOn = none ∧
        l.saved.head? = some new ∧ new < dispatchLevel
    | .bugCheck => l.raisedOn = none

/-- A DPC worker inside a routine stays at dispatch level or above. -/
def WorkerOk (l : ThreadLocals) : Prop :=
  match l.pc with
  | .looping => l.saved = [] ∧ l.currentIrql < dispatchLevel
  | .idle | .acquiring _ | .releasing => ∀ irql ∈ l.currentIrql :: l.saved, dispatchLevel ≤ irql
  | .raising _ _ | .lowering _ | .bugCheck => False

def PartyOk : Party → ThreadLocals → Prop
  | .thread _, l => ThreadOk l
  | .worker _, l => WorkerOk l

variable (index : Processor → Nat)

/-- The party is at dispatch on processor index `i`: a thread that has returned from a raise there
and not begun the matching lower, or worker `i` while it executes a routine. -/
def AtDispatch : Party → ThreadLocals → Nat → Prop
  | .thread _, l, i => ∃ p, l.raisedOn = some p ∧ index p = i
  | .worker j, l, i => i = j ∧ l.pc ≠ .looping

structure Inv (s : State) : Prop where
  ok : ∀ x, PartyOk x (s.locals x)
  locks : ∀ x i, s.dispatchLocks i = some x ↔ AtDispatch index x (s.locals x) i

theorem inv_init (osAffinity : Party → Processor → Bool) : Inv index (State.init osAffinity) := by
  refine ⟨fun x => ?_, fun x i => ?_⟩
  · cases x with
    | thread t =>
      refine ⟨fun p hp => ?_, by simp [State.init, ThreadLocals.init], fun p hp => ?_, ?_⟩
      · exact absurd (congrArg GroupAffinity.mask hp).symm (single_mask_ne_zero p)
      · cases hp
      · simp [State.init, ThreadLocals.init, passiveLevel, dispatchLevel]
    | worker i => exact ⟨rfl, Nat.zero_lt_two⟩
  · cases x with
    | thread t =>
      refine ⟨nofun, ?_⟩
      rintro ⟨p, hp, -⟩
      cases hp
    | worker j => exact ⟨nofun, fun h => absurd rfl h.2⟩

variable {index} {s s' : State} {x : Party}

/-! ## Changing one party -/

theorem partyOk_update {f : Party → ThreadLocals} (h : ∀ y, PartyOk y (f y))
    (hok : PartyOk x l') (y : Party) : PartyOk y (Function.update f x l' y) := by
  by_cases hy : y = x
  · subst hy
    simpa using hok
  · rw [Function.update_of_ne hy]
    exact h y

/-- A step that touches no dispatch lock. -/
theorem Inv.setLocals (h : Inv index s) (hlocals : s'.locals = Function.update s.locals x l')
    (hlocks : s'.dispatchLocks = s.dispatchLocks) (hok : PartyOk x l')
    (hat : ∀ i, AtDispatch index x l' i ↔ AtDispatch index x (s.locals x) i) : Inv index s' := by
  refine ⟨hlocals ▸ partyOk_update h.ok hok, fun y i => ?_⟩
  rw [hlocals, hlocks]
  by_cases hy : y = x
  · subst hy
    rw [Function.update_self, hat]
    exact h.locks y i
  · rw [Function.update_of_ne hy]
    exact h.locks y i

/-- A party that holds no dispatch lock takes a free one. -/
theorem Inv.lock (h : Inv index s) {j : Nat} (hfree : s.dispatchLocks j = none)
    (hlocals : s'.locals = Function.update s.locals x l')
    (hlocks : s'.dispatchLocks = Function.update s.dispatchLocks j (some x)) (hok : PartyOk x l')
    (hnone : ∀ i, ¬ AtDispatch index x (s.locals x) i)
    (hat : ∀ i, AtDispatch index x l' i ↔ i = j) : Inv index s' := by
  refine ⟨hlocals ▸ partyOk_update h.ok hok, fun y i => ?_⟩
  rw [hlocals, hlocks]
  by_cases hy : y = x
  · subst hy
    rw [Function.update_self, hat]
    by_cases hij : i = j
    · simp [hij]
    · rw [Function.update_of_ne hij]
      exact iff_of_false (fun hi => hnone i ((h.locks y i).mp hi)) hij
  · rw [Function.update_of_ne hy]
    by_cases hij : i = j
    · subst hij
      rw [Function.update_self, ← h.locks y i, hfree]
      simp [Ne.symm hy]
    · rw [Function.update_of_ne hij]
      exact h.locks y i

/-- A party gives up the only dispatch lock it holds. -/
theorem Inv.unlock (h : Inv index s) {j : Nat}
    (hown : ∀ i, AtDispatch index x (s.locals x) i ↔ i = j)
    (hlocals : s'.locals = Function.update s.locals x l')
    (hlocks : s'.dispatchLocks = Function.update s.dispatchLocks j none) (hok : PartyOk x l')
    (hat : ∀ i, ¬ AtDispatch index x l' i) : Inv index s' := by
  refine ⟨hlocals ▸ partyOk_update h.ok hok, fun y i => ?_⟩
  rw [hlocals, hlocks]
  have hheld : s.dispatchLocks j = some x := (h.locks x j).mpr ((hown j).mpr rfl)
  by_cases hy : y = x
  · subst hy
    rw [Function.update_self]
    refine iff_of_false ?_ (hat i)
    by_cases hij : i = j
    · simp [hij]
    · rw [Function.update_of_ne hij]
      exact fun hi => hij ((hown i).mp ((h.locks y i).mp hi))
  · rw [Function.update_of_ne hy, ← h.locks y i]
    by_cases hij : i = j
    · subst hij
      rw [Function.update_self, hheld]
      simp [Ne.symm hy]
    · rw [Function.update_of_ne hij]

/-! ## The steps of one party -/

/-- Between two calls, or inside a spin lock call before or after its change of level. -/
def Pc.Running : Pc → Prop
  | .idle | .acquiring _ | .releasing => True
  | .looping | .raising _ _ | .lowering _ | .bugCheck => False

theorem ThreadOk.raised_iff (h : ThreadOk l) (hpc : l.pc.Running) :
    dispatchLevel ≤ l.currentIrql ↔ l.raisedOn ≠ none := by
  have hphase := h.phase
  cases hp : l.pc <;> simp only [hp, Pc.Running] at hpc hphase <;> exact hphase

theorem ThreadOk.of_running (hin : InStep l) (hnested : (l.currentIrql :: l.saved).Pairwise (· ≥ ·))
    (hpinned : ∀ p, l.raisedOn = some p → Pinned l p) (hpc : l.pc.Running)
    (hraised : dispatchLevel ≤ l.currentIrql ↔ l.raisedOn ≠ none) : ThreadOk l := by
  refine ⟨hin, hnested, hpinned, ?_⟩
  cases hp : l.pc <;> simp only [hp, Pc.Running] at hpc ⊢ <;> exact hraised

theorem workerOk_running (hpc : l.pc.Running) :
    WorkerOk l ↔ ∀ irql ∈ l.currentIrql :: l.saved, dispatchLevel ≤ irql := by
  unfold WorkerOk
  cases hp : l.pc <;> simp only [hp, Pc.Running] at hpc ⊢

theorem Pc.Running.ne_looping {pc : Pc} (h : pc.Running) : pc ≠ .looping := by
  rintro rfl
  exact h

theorem running_afterRaise (spin : Option Nat) : (Pc.afterRaise spin).Running := by
  cases spin <;> trivial

/-- Moving between calls changes nothing else. -/
theorem PartyOk.setPc (h : PartyOk x l) (hpc : l.pc.Running) (pc : Pc) (hpc' : pc.Running) :
    PartyOk x { l with pc := pc } ∧
      ∀ i, AtDispatch index x { l with pc := pc } i ↔ AtDispatch index x l i := by
  cases x with
  | thread t =>
    exact ⟨.of_running h.inStep h.nested h.pinned hpc' (h.raised_iff hpc), fun i => Iff.rfl⟩
  | worker j =>
    exact ⟨(workerOk_running hpc').mpr ((workerOk_running hpc).mp h),
      fun i => and_congr_right fun _ => iff_of_true hpc'.ne_looping hpc.ne_looping⟩

theorem PartyOk.raise (h : PartyOk x l) (hpc : l.pc = .idle) {irql : Nat} {spin : Option Nat}
    (hle : l.currentIrql ≤ irql)
    (hp : dispatchLevel ≤ irql ∧ l.currentIrql < dispatchLevel → l.osAffinity p = true) :
    PartyOk x (kfRaiseIrql l irql p spin r) ∧
      ∀ i, AtDispatch index x (kfRaiseIrql l irql p spin r) i ↔ AtDispatch index x l i := by
  have hrun : l.pc.Running := hpc ▸ trivial
  have hrun' := running_afterRaise spin
  cases x with
  | thread t =>
    have hnested : (irql :: l.currentIrql :: l.saved).Pairwise (· ≥ ·) := by
      refine List.Pairwise.cons (fun y hy => ?_) h.nested
      rcases List.mem_cons.mp hy with rfl | hy
      · exact hle
      · exact Nat.le_trans (List.rel_of_pairwise_cons h.nested hy) hle
    by_cases hd : dispatchLevel ≤ irql ∧ l.currentIrql < dispatchLevel
    · obtain ⟨os, cache, before, pc, heq, hin, hpc'⟩ :=
        kfRaiseIrql_dispatch spin (r := r) hd h.inStep (hp hd)
      have hnone : l.raisedOn = none := by
        by_contra hne
        exact absurd ((h.raised_iff hrun).mpr hne) (by omega)
      rw [heq] at hin hpc' ⊢
      refine ⟨⟨hin, hnested, fun q hq => ?_, ?_⟩, fun i => Iff.rfl⟩
      · rw [hnone] at hq
        cases hq
      · rcases hpc' with rfl | ⟨rfl, hpin⟩
        · exact hnone
        · exact ⟨hd.1, hnone, hpin⟩
    · rw [kfRaiseIrql_nested hd]
      refine ⟨.of_running h.inStep hnested h.pinned hrun' ?_, fun i => Iff.rfl⟩
      rw [← h.raised_iff hrun]
      show dispatchLevel ≤ irql ↔ _
      omega
  | worker j =>
    have hall := (workerOk_running hrun).mp h
    have hge : dispatchLevel ≤ l.currentIrql := hall _ (List.mem_cons_self ..)
    rw [kfRaiseIrql_nested (by omega)]
    refine ⟨(workerOk_running hrun').mpr fun y hy => ?_, fun i => and_congr_right fun _ =>
      iff_of_true hrun'.ne_looping hrun.ne_looping⟩
    rcases List.mem_cons.mp hy with rfl | hy
    · exact Nat.le_trans hge hle
    · exact hall y hy

/-- A lower that stays at or above dispatch level, or below it, touches no lock. -/
theorem PartyOk.lower (h : PartyOk x l) (hpc : l.pc.Running) {irql : Nat}
    (hsaved : l.saved.head? = some irql)
    (hd : ¬ (dispatchLevel ≤ l.currentIrql ∧ irql < dispatchLevel)) :
    PartyOk x (setLoweredIrql l irql r) ∧
      ∀ i, AtDispatch index x (setLoweredIrql l irql r) i ↔ AtDispatch index x l i := by
  obtain ⟨rest, hrest⟩ := List.head?_eq_some_iff.mp hsaved
  rw [setLoweredIrql_eq, hrest]
  cases x with
  | thread t =>
    have hnested := h.nested
    rw [hrest] at hnested
    refine ⟨.of_running h.inStep (List.pairwise_cons.mp hnested).2 h.pinned trivial ?_,
      fun i => Iff.rfl⟩
    have hle : irql ≤ l.currentIrql := List.rel_of_pairwise_cons hnested (List.mem_cons_self ..)
    rw [← h.raised_iff hpc]
    show dispatchLevel ≤ irql ↔ _
    omega
  | worker j =>
    have hall := (workerOk_running hpc).mp h
    refine ⟨fun y hy => hall y ?_,
      fun i => and_congr_right fun _ => iff_of_true nofun hpc.ne_looping⟩
    rw [hrest]
    exact List.mem_cons_of_mem _ hy

/-- The affinity calls leave the level and the pinning of a raised thread alone. -/
theorem PartyOk.setAffinity (h : PartyOk x l) (hpc : l.pc = .idle ∨ l.pc = .looping)
    (hlow : l.currentIrql < dispatchLevel)
    (hset : usersimSetCurrentThreadAffinity l new r = some (l', old)) :
    PartyOk x l' ∧ ∀ i, AtDispatch index x l' i ↔ AtDispatch index x l i := by
  have hframe := setAffinity_frame hset
  cases x with
  | thread t =>
    have hrun : l.pc.Running := by
      rcases hpc with hpc | hpc
      · exact hpc ▸ trivial
      · have hphase := h.phase
        rw [hpc] at hphase
        exact hphase.elim
    have hin := setAffinity_inStep h.inStep hset
    have hnone : l.raisedOn = none := by
      by_contra hne
      exact absurd ((h.raised_iff hrun).mpr hne) (by omega)
    rw [hframe] at hin ⊢
    refine ⟨.of_running hin h.nested (fun q hq => ?_) hrun (h.raised_iff hrun), fun i => Iff.rfl⟩
    have hq : l.raisedOn = some q := hq
    rw [hnone] at hq
    cases hq
  | worker j =>
    rw [hframe]
    exact ⟨h, fun i => Iff.rfl⟩

theorem PartyOk.keSetSystemAffinityThreadEx (h : PartyOk x l)
    (hpc : l.pc = .idle ∨ l.pc = .looping) (affinity : BitVec 64) :
    PartyOk x (keSetSystemAffinityThreadEx l affinity r).1 ∧
      ∀ i, AtDispatch index x (keSetSystemAffinityThreadEx l affinity r).1 i ↔
        AtDispatch index x l i := by
  unfold Irql.keSetSystemAffinityThreadEx
  by_cases hd : dispatchLevel ≤ l.currentIrql
  · -- the cache moves away from the system, but a raised thread is pinned all the same
    rw [if_pos hd]
    cases x with
    | thread t =>
      have hrun : l.pc.Running := by
        rcases hpc with hpc | hpc
        · exact hpc ▸ trivial
        · have hphase := h.phase
          rw [hpc] at hphase
          exact hphase.elim
      obtain ⟨p, hp⟩ := Option.ne_none_iff_exists'.mp ((h.raised_iff hrun).mp hd)
      have hpin := h.pinned p hp
      refine ⟨.of_running (fun q _ hq => ?_) h.nested h.pinned hrun (h.raised_iff hrun),
        fun i => Iff.rfl⟩
      have hqp : q = p := (hpin q).mp hq
      rw [hqp]
      exact hpin
    | worker j => exact ⟨h, fun i => Iff.rfl⟩
  · rw [if_neg hd]
    cases hset : usersimSetCurrentThreadAffinity l
        { mask := affinity, group := l.groupAffinityCache.group, reserved := 0 } r with
    | none => exact ⟨h, fun i => Iff.rfl⟩
    | some res => exact h.setAffinity hpc (by omega) hset

theorem PartyOk.keSetSystemGroupAffinityThread (h : PartyOk x l) (hpc : l.pc = .idle)
    (hlow : l.currentIrql < dispatchLevel) {affinity : GroupAffinity} :
    PartyOk x (keSetSystemGroupAffinityThread l affinity r).1 ∧
      ∀ i, AtDispatch index x (keSetSystemGroupAffinityThread l affinity r).1 i ↔
        AtDispatch index x l i := by
  unfold Irql.keSetSystemGroupAffinityThread
  cases hset : usersimSetCurrentThreadAffinity l affinity r with
  | none => exact ⟨h, fun i => Iff.rfl⟩
  | some res => exact h.setAffinity (Or.inl hpc) hlow hset

/-- The end of a lower below dispatch level: the thread has given up its lock already. -/
theorem ThreadOk.finishLowerIrql (h : ThreadOk l) {irql : Nat} (hpc : l.pc = .lowering irql) :
    ThreadOk (finishLowerIrql l irql r) ∧ (finishLowerIrql l irql r).raisedOn = none := by
  have hphase := h.phase
  rw [hpc] at hphase
  obtain ⟨-, hnone, hsaved, hlow⟩ := hphase
  obtain ⟨rest, hrest⟩ := List.head?_eq_some_iff.mp hsaved
  have hnested := h.nested
  rw [hrest] at hnested
  unfold Irql.finishLowerIrql
  cases hset : usersimSetCurrentThreadAffinity l l.groupBeforeRaiseIrql r with
  | none => exact ⟨⟨h.inStep, h.nested, h.pinned, hnone⟩, hnone⟩
  | some res =>
    obtain ⟨l', old⟩ := res
    have hin := setAffinity_inStep h.inStep hset
    have hframe := setAffinity_frame hset
    simp only [setLoweredIrql_eq]
    rw [hframe] at hin ⊢
    refine ⟨.of_running hin ?_ (fun q hq => ?_) trivial ?_, hnone⟩
    · show (irql :: l.saved.tail).Pairwise _
      rw [hrest]
      exact (List.pairwise_cons.mp hnested).2
    · have hq : l.raisedOn = some q := hq
      rw [hnone] at hq
      cases hq
    · exact iff_of_false (by show ¬ dispatchLevel ≤ irql; omega) (not_not.mpr hnone)

theorem workerOk_start (h : WorkerOk l) (hpc : l.pc = .looping) :
    WorkerOk ((setCurrentThreadPriorityByIrql l dispatchLevel r).getD l) ∧
      ((setCurrentThreadPriorityByIrql l dispatchLevel r).getD l).pc = .looping := by
  have hlooping := h
  unfold WorkerOk at hlooping
  rw [hpc] at hlooping
  obtain ⟨hsaved, hlow⟩ := hlooping
  have hne : l.currentIrql ≠ dispatchLevel := by omega
  simp only [setCurrentThreadPriorityByIrql, if_neg hne, Nat.le_refl, if_true]
  have hprio : irqlThreadPriority dispatchLevel = some 15 := rfl
  simp only [hprio, Option.bind_some, usersimSetCurrentThreadPriority]
  split
  · exact ⟨h, hpc⟩
  · split
    · exact ⟨h, hpc⟩
    · exact ⟨h, hpc⟩

/-! ## What an action does -/

/-- The actions that are taken, with their guards; a lower has two cases. -/
inductive Effect (index : Processor → Nat) (s : State) : Action → State → Prop
  | kfRaiseIrql {x : Party} {new : Nat} {p : Processor} {r : OsReply}
      (hpc : (s.locals x).pc = .idle)
      (hon : dispatchLevel ≤ new ∧ (s.locals x).currentIrql < dispatchLevel →
        (s.locals x).osAffinity p = true) :
      Effect index s (.kfRaiseIrql x new p r)
        (s.setLocals x (kfRaiseIrql (s.locals x) new p none r))
  | keAcquireSpinLock {x : Party} {spin : Nat} {p : Processor} {r : OsReply}
      (hpc : (s.locals x).pc = .idle)
      (hon : (s.locals x).currentIrql < dispatchLevel → (s.locals x).osAffinity p = true) :
      Effect index s (.keAcquireSpinLock x spin p r)
        (s.setLocals x (kfRaiseIrql (s.locals x) dispatchLevel p (some spin) r))
  | dispatchLock {x : Party} {p : Processor} {spin : Option Nat}
      (hpc : (s.locals x).pc = .raising p spin)
      (hfree : s.dispatchLocks (index p) = none) :
      Effect index s (.dispatchLock x)
        { (s.setLocals x { s.locals x with pc := .afterRaise spin, raisedOn := some p }) with
          dispatchLocks := Function.update s.dispatchLocks (index p) (some x) }
  | spinLock {x : Party} {spin : Nat}
      (hpc : (s.locals x).pc = .acquiring spin) (hfree : s.spinLocks spin = none) :
      Effect index s (.spinLock x)
        { (s.setLocals x { s.locals x with pc := .idle }) with
          spinLocks := Function.update s.spinLocks spin (some x) }
  | keReleaseSpinLock {x : Party} {spin : Nat} (hpc : (s.locals x).pc = .idle)
      (hheld : s.spinLocks spin = some x) :
      Effect index s (.keReleaseSpinLock x spin)
        { (s.setLocals x { s.locals x with pc := .releasing }) with
          spinLocks := Function.update s.spinLocks spin none }
  | dispatchUnlock {x : Party} {new : Nat} {p : Processor} {r : OsReply}
      (hpc : (s.locals x).pc = .idle ∨ (s.locals x).pc = .releasing)
      (hlevel : dispatchLevel ≤ (s.locals x).currentIrql) (hnew : new < dispatchLevel)
      (hon : (s.locals x).osAffinity p = true) :
      Effect index s (.keLowerIrql x new p r)
        { (s.setLocals x { s.locals x with pc := .lowering new, raisedOn := none }) with
          dispatchLocks := Function.update s.dispatchLocks (index p) none }
  | setLoweredIrql {x : Party} {new : Nat} {p : Processor} {r : OsReply}
      (hpc : (s.locals x).pc = .idle ∨ (s.locals x).pc = .releasing)
      (hstays : ¬ (dispatchLevel ≤ (s.locals x).currentIrql ∧ new < dispatchLevel)) :
      Effect index s (.keLowerIrql x new p r) (s.setLocals x (setLoweredIrql (s.locals x) new r))
  | finishLowerIrql {x : Party} {new : Nat} {r : OsReply} (hpc : (s.locals x).pc = .lowering new) :
      Effect index s (.finishLowerIrql x r) (s.setLocals x (finishLowerIrql (s.locals x) new r))
  | keSetSystemAffinityThreadEx {x : Party} {affinity : BitVec 64} {r : OsReply}
      (hpc : (s.locals x).pc = .idle) :
      Effect index s (.keSetSystemAffinityThreadEx x affinity r)
        (s.setLocals x (keSetSystemAffinityThreadEx (s.locals x) affinity r).1)
  | keRevertToUserAffinityThreadEx {x : Party} {affinity : BitVec 64} {r : OsReply}
      (hpc : (s.locals x).pc = .idle) :
      Effect index s (.keRevertToUserAffinityThreadEx x affinity r)
        (s.setLocals x (keRevertToUserAffinityThreadEx (s.locals x) affinity r))
  | keSetSystemGroupAffinityThread {x : Party} {affinity : GroupAffinity} {r : OsReply}
      (hpc : (s.locals x).pc = .idle) :
      Effect index s (.keSetSystemGroupAffinityThread x affinity r)
        (s.setLocals x (keSetSystemGroupAffinityThread (s.locals x) affinity r).1)
  | keRevertToUserGroupAffinityThread {x : Party} {previous : GroupAffinity} {r : OsReply}
      (hpc : (s.locals x).pc = .idle) :
      Effect index s (.keRevertToUserGroupAffinityThread x previous r)
        (s.setLocals x (keRevertToUserGroupAffinityThread (s.locals x) previous r))
  | workerStart {i : Nat} {r : OsReply} (hpc : (s.locals (.worker i)).pc = .looping) :
      Effect index s (.workerStart i r)
        (s.setLocals (.worker i) (keSetSystemAffinityThreadEx
          ((setCurrentThreadPriorityByIrql (s.locals (.worker i)) dispatchLevel r).getD
            (s.locals (.worker i))) (workerMask i) r).1)
  | workerCall {i : Nat} (hpc : (s.locals (.worker i)).pc = .looping)
      (hfree : s.dispatchLocks i = none) :
      Effect index s (.workerCall i)
        { (s.setLocals (.worker i)
            { s.locals (.worker i) with pc := .idle, currentIrql := dispatchLevel }) with
          dispatchLocks := Function.update s.dispatchLocks i (some (.worker i)) }
  | workerReturn {i : Nat} (hpc : (s.locals (.worker i)).pc = .idle) :
      Effect index s (.workerReturn i)
        { (s.setLocals (.worker i)
            { s.locals (.worker i) with pc := .looping, currentIrql := passiveLevel }) with
          dispatchLocks := Function.update s.dispatchLocks i none }

theorem running_of_mayLower (h : l.pc = .idle ∨ l.pc = .releasing) : l.pc.Running := by
  rcases h with h | h
  · exact h ▸ trivial
  · exact h ▸ trivial

theorem step_effect {a : Action} (hs : step index s a = some s') : Effect index s a s' := by
  cases a with
  | keLowerIrql x new p r =>
    simp only [step] at hs
    split at hs
    · next hpc =>
      split at hs
      · next hlow =>
        split at hs
        · next hon =>
          cases hs
          exact .dispatchUnlock hpc hlow.1 hlow.2 hon
        · cases hs
      · next hstays =>
        cases hs
        exact .setLoweredIrql hpc hstays
    · cases hs
  | dispatchLock x =>
    simp only [step] at hs
    split at hs
    · next p spin hpc =>
      split at hs
      · next hfree =>
        cases hs
        exact .dispatchLock hpc hfree
      · cases hs
    · cases hs
  | spinLock x =>
    simp only [step] at hs
    split at hs
    · next spin hpc =>
      split at hs
      · next hfree =>
        cases hs
        exact .spinLock hpc hfree
      · cases hs
    · cases hs
  | finishLowerIrql x r =>
    simp only [step] at hs
    split at hs
    · next new hpc =>
      cases hs
      exact .finishLowerIrql hpc
    · cases hs
  | kfRaiseIrql x new p r =>
    simp only [step] at hs
    split at hs
    · next hc =>
      cases hs
      exact .kfRaiseIrql hc.1 hc.2
    · cases hs
  | keAcquireSpinLock x spin p r =>
    simp only [step] at hs
    split at hs
    · next hc =>
      cases hs
      exact .keAcquireSpinLock hc.1 hc.2
    · cases hs
  | keReleaseSpinLock x spin =>
    simp only [step] at hs
    split at hs
    · next hc =>
      cases hs
      exact .keReleaseSpinLock hc.1 hc.2
    · cases hs
  | workerCall i =>
    simp only [step] at hs
    split at hs
    · next hc =>
      cases hs
      exact .workerCall hc.1 hc.2
    · cases hs
  | keSetSystemAffinityThreadEx | keRevertToUserAffinityThreadEx | keSetSystemGroupAffinityThread
  | keRevertToUserGroupAffinityThread | workerStart | workerReturn =>
    simp only [step] at hs
    split at hs
    · next hpc =>
      cases hs
      constructor
      exact hpc
    · cases hs

/-! ## One action -/

/-- A raised thread that lowers its level runs on the processor of its raise. -/
theorem Inv.lower_processor (h : Inv index s) {t : Nat} (hpc : (s.locals (.thread t)).pc.Running)
    (hd : dispatchLevel ≤ (s.locals (.thread t)).currentIrql)
    (hp : (s.locals (.thread t)).osAffinity p = true) :
    (s.locals (.thread t)).raisedOn = some p ∧ s.dispatchLocks (index p) = some (.thread t) := by
  have hok : ThreadOk (s.locals (.thread t)) := h.ok (.thread t)
  obtain ⟨q, hq⟩ := Option.ne_none_iff_exists'.mp ((hok.raised_iff hpc).mp hd)
  have hpq : p = q := (hok.pinned q hq p).mp hp
  subst hpq
  exact ⟨hq, (h.locks _ _).mpr ⟨p, hq, rfl⟩⟩

theorem atDispatch_iff {t : Nat} (hon : l.raisedOn = some p) (i : Nat) :
    AtDispatch index (.thread t) l i ↔ i = index p := by
  constructor
  · rintro ⟨q, hq, rfl⟩
    rw [hon] at hq
    cases hq
    rfl
  · rintro rfl
    exact ⟨p, hon, rfl⟩

theorem not_atDispatch {t : Nat} (hnone : l.raisedOn = none) (i : Nat) :
    ¬ AtDispatch index (.thread t) l i := by
  rintro ⟨q, hq, -⟩
  rw [hnone] at hq
  cases hq

/-- A thread that is raising its level gets the dispatch lock of its processor. -/
theorem inv_dispatchLock {spin : Option Nat} (h : Inv index s)
    (hpc : (s.locals x).pc = .raising p spin) (hfree : s.dispatchLocks (index p) = none) :
    Inv index { s.setLocals x
        { s.locals x with pc := .afterRaise spin, raisedOn := some p } with
      dispatchLocks := Function.update s.dispatchLocks (index p) (some x) } := by
  cases x with
  | thread t =>
    have hok : ThreadOk (s.locals (.thread t)) := h.ok (.thread t)
    have hphase := hok.phase
    rw [hpc] at hphase
    obtain ⟨hd, hnone, hpin⟩ := hphase
    refine h.lock hfree rfl rfl (.of_running hok.inStep hok.nested (fun q hq => ?_)
      (running_afterRaise spin) (iff_of_true hd nofun)) (not_atDispatch hnone)
      (atDispatch_iff rfl)
    cases hq
    exact hpin
  | worker j =>
    have hok : WorkerOk (s.locals (.worker j)) := h.ok (.worker j)
    unfold WorkerOk at hok
    rw [hpc] at hok
    exact hok.elim

/-- A thread that lowers its level below dispatch frees the dispatch lock of its processor. -/
theorem inv_dispatchUnlock {irql : Nat} (h : Inv index s) (hrun : (s.locals x).pc.Running)
    (hd : dispatchLevel ≤ (s.locals x).currentIrql) (hlow : irql < dispatchLevel)
    (hp : (s.locals x).osAffinity p = true) (hsaved : (s.locals x).saved.head? = some irql) :
    Inv index { s.setLocals x { s.locals x with pc := .lowering irql, raisedOn := none } with
      dispatchLocks := Function.update s.dispatchLocks (index p) none } := by
  cases x with
  | thread t =>
    have hok : ThreadOk (s.locals (.thread t)) := h.ok (.thread t)
    obtain ⟨hon, -⟩ := h.lower_processor hrun hd hp
    exact h.unlock (atDispatch_iff hon) rfl rfl
      ⟨hok.inStep, hok.nested, nofun, hd, rfl, hsaved, hlow⟩ (not_atDispatch rfl)
  | worker j =>
    -- a routine does not go below dispatch level
    have hall := (workerOk_running hrun).mp (h.ok (.worker j))
    have hmem : irql ∈ (s.locals (.worker j)).saved := List.mem_of_mem_head? hsaved
    exact absurd (hall irql (List.mem_cons_of_mem _ hmem)) (by omega)

theorem inv_finishLowerIrql {irql : Nat} (h : Inv index s)
    (hpc : (s.locals x).pc = .lowering irql) :
    Inv index (s.setLocals x (finishLowerIrql (s.locals x) irql r)) := by
  cases x with
  | thread t =>
    have hok : ThreadOk (s.locals (.thread t)) := h.ok (.thread t)
    have hphase := hok.phase
    rw [hpc] at hphase
    obtain ⟨hok', hnone⟩ := hok.finishLowerIrql (r := r) hpc
    exact h.setLocals rfl rfl hok' fun i =>
      iff_of_false (not_atDispatch hnone i) (not_atDispatch hphase.2.1 i)
  | worker j =>
    have hok : WorkerOk (s.locals (.worker j)) := h.ok (.worker j)
    unfold WorkerOk at hok
    rw [hpc] at hok
    exact hok.elim

theorem inv_step {a : Action} (h : Inv index s) (ha : Admissible s a)
    (hs : step index s a = some s') : Inv index s' := by
  cases step_effect hs with
  | @kfRaiseIrql x new p r hpc hon =>
    obtain ⟨hok, hat⟩ := (h.ok x).raise hpc ha hon
    exact h.setLocals rfl rfl hok hat
  | @keAcquireSpinLock x spin p r hpc hon =>
    obtain ⟨hok, hat⟩ := (h.ok x).raise hpc ha fun hd => hon hd.2
    exact h.setLocals rfl rfl hok hat
  | dispatchLock hpc hfree => exact inv_dispatchLock h hpc hfree
  | @spinLock x spin hpc _ =>
    obtain ⟨hok, hat⟩ := (h.ok x).setPc (hpc ▸ trivial) .idle trivial
    exact h.setLocals rfl rfl hok hat
  | @keReleaseSpinLock x spin hpc _ =>
    obtain ⟨hok, hat⟩ := (h.ok x).setPc (hpc ▸ trivial) .releasing trivial
    exact h.setLocals rfl rfl hok hat
  | dispatchUnlock hpc hlevel hnew hon =>
    exact inv_dispatchUnlock h (running_of_mayLower hpc) hlevel hnew hon ha
  | @setLoweredIrql x new p r hpc hstays =>
    obtain ⟨hok, hat⟩ := (h.ok x).lower (running_of_mayLower hpc) ha hstays
    exact h.setLocals rfl rfl hok hat
  | finishLowerIrql hpc => exact inv_finishLowerIrql h hpc
  | @keSetSystemAffinityThreadEx x affinity r hpc
  | @keRevertToUserAffinityThreadEx x affinity r hpc =>
    obtain ⟨hok, hat⟩ := (h.ok x).keSetSystemAffinityThreadEx (Or.inl hpc) affinity
    exact h.setLocals rfl rfl hok hat
  | @keSetSystemGroupAffinityThread x affinity r hpc
  | @keRevertToUserGroupAffinityThread x affinity r hpc =>
    obtain ⟨hok, hat⟩ := (h.ok x).keSetSystemGroupAffinityThread hpc ha
    exact h.setLocals rfl rfl hok hat
  | @workerStart i r hpc =>
    obtain ⟨hok, hpc'⟩ := workerOk_start (r := r) (h.ok (.worker i)) hpc
    have hok : PartyOk (.worker i) _ := hok
    obtain ⟨hok, hat⟩ := hok.keSetSystemAffinityThreadEx (Or.inr hpc') (workerMask i)
    refine h.setLocals rfl rfl hok fun j => (hat j).trans ?_
    exact and_congr_right fun _ => iff_of_false (not_not.mpr hpc') (not_not.mpr hpc)
  | @workerCall i hpc hfree =>
    have hok : WorkerOk (s.locals (.worker i)) := h.ok (.worker i)
    unfold WorkerOk at hok
    rw [hpc] at hok
    refine h.lock hfree rfl rfl (fun y hy => ?_) (fun j hj => hj.2 hpc)
      fun j => ⟨fun hj => hj.1, fun hj => ⟨hj, nofun⟩⟩
    rw [show (s.locals (.worker i)).saved = [] from hok.1] at hy
    exact Nat.le_of_eq (List.mem_singleton.mp hy).symm
  | workerReturn hpc =>
    refine h.unlock (fun j => ?_) rfl rfl ⟨ha, Nat.zero_lt_two⟩ fun j hj => hj.2 rfl
    exact and_iff_left (by rw [hpc]; nofun)

/-! ## Runs -/

/-- The party may be running at dispatch on processor index `i`: a thread that has returned from a
raise to dispatch level and not begun the matching lower, on any processor the system lets it run
on, or worker `i` while it executes a routine. -/
def DispatchOn (index : Processor → Nat) (s : State) : Party → Nat → Prop
  | .thread t, i => (s.locals (.thread t)).pc.Running ∧
      dispatchLevel ≤ (s.locals (.thread t)).currentIrql ∧
      ∃ p, (s.locals (.thread t)).osAffinity p = true ∧ index p = i
  | .worker j, i => i = j ∧ (s.locals (.worker j)).pc ≠ .looping

structure DispatchSafe (index : Processor → Nat) (s : State) : Prop where
  exclusive : ∀ x y i, DispatchOn index s x i → DispatchOn index s y i → x = y
  /-- A lower below dispatch level unlocks what the raise in force has locked. -/
  unlocks : ∀ t irql p r s', step index s (.keLowerIrql (.thread t) irql p r) = some s' →
    dispatchLevel ≤ (s.locals (.thread t)).currentIrql → irql < dispatchLevel →
    ∃ q, (s.locals (.thread t)).raisedOn = some q ∧ index p = index q ∧
      s.dispatchLocks (index p) = some (.thread t) ∧
      s'.dispatchLocks = Function.update s.dispatchLocks (index p) none
  below : ∀ x i, (s.locals x).currentIrql < dispatchLevel → s.dispatchLocks i ≠ some x

theorem Inv.dispatchOn (h : Inv index s) {i : Nat} (hx : DispatchOn index s x i) :
    s.dispatchLocks i = some x := by
  cases x with
  | thread t =>
    obtain ⟨hpc, hd, p, hp, rfl⟩ := hx
    exact (h.lower_processor hpc hd hp).2
  | worker j => exact (h.locks _ _).mpr hx

theorem Inv.below (h : Inv index s) {i : Nat} (hlow : (s.locals x).currentIrql < dispatchLevel) :
    s.dispatchLocks i ≠ some x := by
  intro hheld
  have hat := (h.locks x i).mp hheld
  cases x with
  | thread t =>
    obtain ⟨p, hp, -⟩ := hat
    have hphase := (show ThreadOk _ from h.ok (.thread t)).phase
    -- a thread with a raise in force is between two calls, at dispatch level
    split at hphase <;> simp only [hp] at hphase
    all_goals first
      | exact absurd (hphase.mpr (by simp)) (by omega)
      | simp at hphase
  | worker j =>
    have hok : WorkerOk (s.locals (.worker j)) := h.ok (.worker j)
    unfold WorkerOk at hok
    split at hok
    · next hpc => exact hat.2 hpc
    all_goals first
      | exact hok.elim
      | exact absurd (hok _ (List.mem_cons_self ..)) (by omega)

theorem dispatchSafe_of_inv (h : Inv index s) : DispatchSafe index s := by
  refine ⟨fun x y i hx hy => ?_, fun t irql p r s' hs hd hlow => ?_, fun x i => h.below⟩
  · have hxy := (h.dispatchOn hx).symm.trans (h.dispatchOn hy)
    exact Option.some.inj hxy
  · cases step_effect hs with
    | dispatchUnlock hpc _ _ hp =>
      obtain ⟨hon, hheld⟩ := h.lower_processor (running_of_mayLower hpc) hd hp
      exact ⟨p, hon, rfl, hheld, rfl⟩
    | setLoweredIrql _ hstays => exact absurd ⟨hd, hlow⟩ hstays

/--
For any number of threads and DPC workers, whatever affinities the system gives the threads at
first and whatever its calls return: after every run in which the callers keep their promises, at
most one party is at dispatch on each processor, a lower unlocks what the matching raise locked,
and no party below dispatch level holds a dispatch lock.
-/
theorem dispatch_exclusion (groupToIndexMap : Nat → Nat) (osAffinity : Party → Processor → Bool)
    (as : List Action) (s : State)
    (hg : Guarded (step (keGetProcessorIndexFromNumber groupToIndexMap)) Admissible
      (State.init osAffinity) as)
    (hs : exec (step (keGetProcessorIndexFromNumber groupToIndexMap)) (State.init osAffinity) as =
      some s) :
    DispatchSafe (keGetProcessorIndexFromNumber groupToIndexMap) s := by
  refine dispatchSafe_of_inv (exec_invariant_of_guard (P := Inv _) ?_ (inv_init _ osAffinity) hg hs)
  intro s a s' h ha hstep
  exact inv_step h ha hstep

def allOk : OsReply where
  setThreadGroupAffinity := true
  setThreadPriority := true
  processMask := some 3

def processor (number : Fin 64) : Processor where
  group := 0
  number := number

/-- A thread asks for the other processor while it is at dispatch, lowers, and raises again on the
processor it was left on; a worker executes on the other one. -/
def deferredAffinityRun : List Action :=
  [.workerStart 1 allOk, .kfRaiseIrql (.thread 0) 2 (processor 0) allOk, .dispatchLock (.thread 0),
   .workerCall 1, .keSetSystemAffinityThreadEx (.thread 0) 2 allOk,
   .keLowerIrql (.thread 0) 0 (processor 0) allOk, .finishLowerIrql (.thread 0) allOk,
   .keAcquireSpinLock (.thread 0) 5 (processor 0) allOk, .dispatchLock (.thread 0),
   .spinLock (.thread 0), .kfRaiseIrql (.worker 1) 3 (processor 1) allOk]

theorem deferredAffinityRun_safe :
    ∃ s, exec (step (keGetProcessorIndexFromNumber fun _ => 0)) (State.init fun _ _ => true)
        deferredAffinityRun = some s ∧
      s.dispatchLocks 0 = some (.thread 0) ∧ s.dispatchLocks 1 = some (.worker 1) ∧
      DispatchSafe (keGetProcessorIndexFromNumber fun _ => 0) s := by
  obtain ⟨s, hs, h0, h1⟩ : ∃ s, exec (step (keGetProcessorIndexFromNumber fun _ => 0))
        (State.init fun _ _ => true) deferredAffinityRun = some s ∧
      s.dispatchLocks 0 = some (.thread 0) ∧ s.dispatchLocks 1 = some (.worker 1) :=
    exec_of_check (by decide +kernel)
  exact ⟨s, hs, h0, h1, dispatch_exclusion (fun _ => 0) (fun _ _ => true) deferredAffinityRun s
    (guarded_of_check (by decide +kernel)) hs⟩

end Usersim.Irql
