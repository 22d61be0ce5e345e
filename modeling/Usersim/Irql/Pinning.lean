import Usersim.Irql.Sequence
import Usersim.Platform.Processors

/-!
# Where the DPC workers run (`ke.cpp`, `platform_user.cpp`)

Worker `i` is for processor `i` and pins itself with `1 << i` in the group that its cache holds. The
cache of a new thread holds group 0, so the other groups get no worker.

* `osAffinity_step` — what a worker does once it has started does not move it
* `pinsItself_iff` — which workers run on their processor
-/

namespace Usersim.Irql

open Lib Platform

/-- `_usersim_platform_group_to_index_map` as the levels use it. -/
def groupToIndex (gs : Groups) (group : Nat) : Nat := ((groupToIndexMap gs)[group]?.getD 0).toNat

/-- The processor index that a thread sees. -/
def currentIndex (gs : Groups) : Processor → Nat := keGetProcessorIndexFromNumber (groupToIndex gs)

/-- What worker `i` asks for; the thread is new. -/
def workerRequest (i : Nat) : GroupAffinity :=
  exRequest (ThreadLocals.init (fun _ => true) .looping) (workerMask i)

def Action.party : Action → Party
  | .kfRaiseIrql x .. | .keAcquireSpinLock x .. | .dispatchLock x | .spinLock x
  | .keReleaseSpinLock x _ | .keLowerIrql x .. | .finishLowerIrql x _
  | .keSetSystemAffinityThreadEx x .. | .keRevertToUserAffinityThreadEx x ..
  | .keSetSystemGroupAffinityThread x .. | .keRevertToUserGroupAffinityThread x .. => x
  | .workerStart i _ | .workerCall i | .workerReturn i => .worker i

/-- Worker `i` starts once, before anything else it does, and gets what it asks for. -/
structure Starts (i : Nat) (before after : List Action) (r : OsReply) : Prop where
  first : ∀ a ∈ before, a.party ≠ .worker i
  once : ∀ r', .workerStart i r' ∉ after
  granted : r.setThreadGroupAffinity = true

/-- In whatever is run, worker `i` sees its own index. -/
def SeesItself (gs : Groups) (i : Nat) : Prop :=
  ∀ osAffinity before after r s, Starts i before after r →
    Guarded (step (currentIndex gs)) Admissible (State.init osAffinity)
      (before ++ .workerStart i r :: after) →
    exec (step (currentIndex gs)) (State.init osAffinity) (before ++ .workerStart i r :: after) =
      some s →
    ∀ p, (s.locals (.worker i)).osAffinity p = true → currentIndex gs p = i

/-- What the worker for processor index `i` should be. -/
structure PinsItself (gs : Groups) (i : BitVec 32) : Prop where
  requests : ∃ p, keGetProcessorNumberFromIndex (groupToIndexMap gs) gs.total i = some (.ok p) ∧
    workerRequest i.toNat =
      { mask := 1#64 <<< p.number.toNat, group := p.group.toNat, reserved := 0 }
  different : ∀ j < gs.total, j ≠ i → ∀ q,
    ¬ ((workerRequest i.toNat).contains q = true ∧ (workerRequest j.toNat).contains q = true)
  sees : SeesItself gs i.toNat

variable {index : Processor → Nat} {s s' : State} {x : Party} {l : ThreadLocals} {gs : Groups}

/-! ## What worker asks for -/

/-- The processor that worker `i` asks for. -/
def workerProcessor (i : Nat) : Processor where
  group := 0
  number := ⟨i % 64, Nat.mod_lt _ (by decide)⟩

theorem workerRequest_eq (i : Nat) : workerRequest i = .single (workerProcessor i) := rfl

theorem contains_workerRequest (i : Nat) (q : Processor) :
    (workerRequest i).contains q = true ↔ q = workerProcessor i := by
  rw [workerRequest_eq]
  exact single_contains _ q

/-- Two workers ask for the same processor if their indices agree in six bits. -/
theorem workerProcessor_inj (i j : Nat) :
    workerProcessor i = workerProcessor j ↔ i % 64 = j % 64 := by
  rw [workerProcessor, workerProcessor, Processor.mk.injEq, Fin.mk.injEq]
  exact and_iff_right rfl

/-! ## What the worker runs on -/

theorem setLocals_self (s : State) (x : Party) (l : ThreadLocals) :
    (s.setLocals x l).locals x = l := Function.update_self ..

/-- The priority is set first, it has no part in the affinity. -/
theorem setPriority_frame (l : ThreadLocals) (irql : Nat) (r : OsReply) :
    ((setCurrentThreadPriorityByIrql l irql r).getD l).currentIrql = l.currentIrql ∧
      ((setCurrentThreadPriorityByIrql l irql r).getD l).groupAffinityCache =
        l.groupAffinityCache := by
  have hset : ∀ priority l' old, usersimSetCurrentThreadPriority l priority r = some (l', old) →
      l'.currentIrql = l.currentIrql ∧ l'.groupAffinityCache = l.groupAffinityCache := by
    intro priority l' old h
    unfold usersimSetCurrentThreadPriority at h
    split at h
    · cases h
      exact ⟨rfl, rfl⟩
    · split at h <;> cases h
      exact ⟨rfl, rfl⟩
  cases h : setCurrentThreadPriorityByIrql l irql r with
  | none => exact ⟨rfl, rfl⟩
  | some l' =>
    unfold setCurrentThreadPriorityByIrql at h
    split at h
    · cases h
      exact ⟨rfl, rfl⟩
    · split at h
      · obtain ⟨priority, -, h⟩ := Option.bind_eq_some_iff.mp h
        obtain ⟨⟨l₁, old⟩, hl₁, rfl⟩ := Option.map_eq_some_iff.mp h
        exact hset priority l₁ old hl₁
      · obtain ⟨⟨l₁, old⟩, hl₁, rfl⟩ := Option.map_eq_some_iff.mp h
        exact hset _ l₁ old hl₁

/-- An affinity that is not the cached one, and that the system grants. -/
theorem setAffinity_granted {new : GroupAffinity} {r : OsReply} (hnew : new ≠ l.groupAffinityCache)
    (hmask : new.mask ≠ 0) (hgranted : r.setThreadGroupAffinity = true) :
    usersimSetCurrentThreadAffinity l new r =
      some ({ l with osAffinity := new.contains, groupAffinityCache := new },
        l.groupAffinityCache) := by
  rw [usersimSetCurrentThreadAffinity, if_neg hnew, if_neg hmask, if_pos hgranted]

/-- A new worker that gets what it asks for runs there. -/
theorem workerStart_osAffinity {os : Processor → Bool} {i : Nat} {r : OsReply}
    (hnew : s.locals (.worker i) = .init os .looping) (hgranted : r.setThreadGroupAffinity = true)
    (hs : step index s (.workerStart i r) = some s') :
    (s'.locals (.worker i)).osAffinity = (workerRequest i).contains := by
  simp only [step, hnew] at hs
  cases hs
  rw [setLocals_self]
  obtain ⟨hirql, hcache⟩ := setPriority_frame (.init os .looping) dispatchLevel r
  generalize (setCurrentThreadPriorityByIrql (.init os .looping) dispatchLevel r).getD
    (.init os .looping) = l at hirql hcache
  have hlow : ¬ dispatchLevel ≤ l.currentIrql := by
    rw [hirql]
    exact Nat.not_le.mpr Nat.zero_lt_two
  have hmask : (workerRequest i).mask ≠ 0 := single_mask_ne_zero (workerProcessor i)
  have hdiffers : workerRequest i ≠ l.groupAffinityCache := by
    rw [hcache]
    exact fun h => hmask (congrArg GroupAffinity.mask h)
  have hrequest : { mask := workerMask i, group := l.groupAffinityCache.group, reserved := 0 } =
      workerRequest i := by
    rw [hcache]
    rfl
  rw [keSetSystemAffinityThreadEx, if_neg hlow, hrequest,
    setAffinity_granted hdiffers hmask hgranted]

/-- Inside a routine a worker is at dispatch level. -/
theorem WorkerOk.dispatch (h : WorkerOk l) (hpc : l.pc.Running) : dispatchLevel ≤ l.currentIrql :=
  (workerOk_running hpc).mp h _ (List.mem_cons_self ..)

/-- A step changes the party that takes it. -/
theorem step_party {a : Action} (hs : step index s a = some s') :
    ∃ l, s'.locals = Function.update s.locals a.party l := by
  cases step_effect hs <;> exact ⟨_, rfl⟩

theorem locals_frame {a : Action} (hs : step index s a = some s') (hx : a.party ≠ x) :
    s'.locals x = s.locals x := by
  obtain ⟨l, hl⟩ := step_party hs
  rw [hl, Function.update_of_ne (Ne.symm hx)]

theorem osAffinity_update (hlocals : s'.locals = Function.update s.locals x l)
    (h : l.osAffinity = (s.locals x).osAffinity) :
    (s'.locals x).osAffinity = (s.locals x).osAffinity := by
  rw [hlocals, Function.update_self, h]

/-- What a worker does once it has started does not move it: inside its routines an affinity call
only changes the cache. -/
theorem osAffinity_step {a : Action} {i : Nat} (h : Inv index s) (ha : Admissible s a)
    (hstart : ∀ r, a ≠ .workerStart i r) (hs : step index s a = some s') :
    (s'.locals (.worker i)).osAffinity = (s.locals (.worker i)).osAffinity := by
  have hok : WorkerOk (s.locals (.worker i)) := h.ok (.worker i)
  by_cases hx : a.party = .worker i
  · cases step_effect hs with
    | @kfRaiseIrql x new p r hpc hon | @keAcquireSpinLock x spin p r hpc hon =>
      obtain rfl : x = .worker i := hx
      have hd := hok.dispatch (hpc ▸ trivial)
      exact osAffinity_update rfl (by rw [kfRaiseIrql_nested (by omega)])
    | dispatchLock | spinLock | keReleaseSpinLock | dispatchUnlock | workerCall | workerReturn =>
      cases hx
      exact osAffinity_update rfl rfl
    | setLoweredIrql =>
      cases hx
      exact osAffinity_update rfl (by rw [setLoweredIrql_eq])
    | @finishLowerIrql x new r hpc =>
      -- a worker never gets here
      obtain rfl : x = .worker i := hx
      unfold WorkerOk at hok
      rw [hpc] at hok
      exact hok.elim
    | @keSetSystemAffinityThreadEx x affinity r hpc =>
      obtain rfl : x = .worker i := hx
      have hd := hok.dispatch (hpc ▸ trivial)
      exact osAffinity_update rfl (by rw [keSetSystemAffinityThreadEx, if_pos hd])
    | @keRevertToUserAffinityThreadEx x affinity r hpc =>
      obtain rfl : x = .worker i := hx
      have hd := hok.dispatch (hpc ▸ trivial)
      refine osAffinity_update rfl ?_
      rw [keRevertToUserAffinityThreadEx, keSetSystemAffinityThreadEx, if_pos hd]
    | @keSetSystemGroupAffinityThread x affinity r hpc
    | @keRevertToUserGroupAffinityThread x affinity r hpc =>
      obtain rfl : x = .worker i := hx
      exact absurd (hok.dispatch (hpc ▸ trivial)) (Nat.not_le.mpr ha)
    | @workerStart j r hpc =>
      cases hx
      exact absurd rfl (hstart r)
  · rw [locals_frame hs hx]

/-- Worker `i` runs where it asked to run. -/
theorem osAffinity_of_starts {osAffinity : Party → Processor → Bool} {i : Nat}
    {before after : List Action} {r : OsReply} (hstarts : Starts i before after r)
    (hg : Guarded (step index) Admissible (State.init osAffinity)
      (before ++ .workerStart i r :: after))
    (hs : exec (step index) (State.init osAffinity)
      (before ++ .workerStart i r :: after) = some s) :
    (s.locals (.worker i)).osAffinity = (workerRequest i).contains := by
  rw [exec_append] at hs
  obtain ⟨s₀, hs₀, hs⟩ := Option.bind_eq_some_iff.mp hs
  obtain ⟨s₁, hs₁, hs⟩ := exec_cons_eq_some.mp hs
  obtain ⟨hgbefore, hg⟩ := guarded_append hg
  obtain ⟨hgstart, hg⟩ := hg s₀ hs₀
  have hbefore : Inv index s₀ ∧
      s₀.locals (.worker i) = .init (osAffinity (.worker i)) .looping := by
    refine exec_invariant_of_guard
      (P := fun s => Inv index s ∧ s.locals (.worker i) = .init (osAffinity (.worker i)) .looping)
      ?_ ⟨inv_init index osAffinity, rfl⟩
      (guarded_and.mpr ⟨hgbefore, guarded_of_mem (Q := fun a => a.party ≠ .worker i) hstarts.first⟩)
      hs₀
    intro s a s' h ha hs
    exact ⟨inv_step h.1 ha.1 hs, (locals_frame hs ha.2).trans h.2⟩
  have hstart := workerStart_osAffinity hbefore.2 hstarts.granted hs₁
  refine (exec_invariant_of_guard
    (P := fun s => Inv index s ∧ (s.locals (.worker i)).osAffinity = (workerRequest i).contains)
    ?_ ⟨inv_step hbefore.1 hgstart hs₁, hstart⟩
    (guarded_and.mpr ⟨hg s₁ hs₁, guarded_of_mem (Q := fun a => ∀ r, a ≠ .workerStart i r) ?_⟩) hs).2
  · intro s a s' h ha hs
    exact ⟨inv_step h.1 ha.1 hs, (osAffinity_step h.1 ha.1 ha.2 hs).trans h.2⟩
  · rintro a ha r' rfl
    exact hstarts.once r' ha

/-! ## Which workers are pinned -/

theorem currentIndex_first (n : Fin 64) : currentIndex gs { group := 0, number := n } = n := by
  have hgroups : 0 < gs.sizes.length := by
    have hpos := gs.pos
    by_contra h
    rw [List.length_eq_zero_iff.mp (Nat.eq_zero_of_not_pos h)] at hpos
    exact Nat.lt_irrefl _ hpos
  rw [currentIndex, keGetProcessorIndexFromNumber, groupToIndex, getElem?_groupToIndexMap hgroups]
  exact Nat.zero_add _

theorem seesItself {i : Nat} (hi : i < 64) : SeesItself gs i := by
  intro osAffinity before after r s hstarts hg hs p hp
  rw [osAffinity_of_starts hstarts hg hs, contains_workerRequest] at hp
  rw [hp, workerProcessor, currentIndex_first]
  exact Nat.mod_eq_of_lt hi

/-- A worker asks for its own processor if that one is in group 0. -/
theorem requests_iff {p : ProcessorNumber} (hp : gs.IsProcessor p) :
    workerRequest (gs.indexOf p).toNat =
        { mask := 1#64 <<< p.number.toNat, group := p.group.toNat, reserved := 0 } ↔
      (gs.indexOf p).toNat < sizeAt gs.sizes 0 := by
  have hsmall := sizeAt_le gs p.group.toNat
  have hlt : p.number.toNat < 64 := Nat.lt_of_lt_of_le hp hsmall
  have hfirst : offset gs.sizes 0 = 0 := rfl
  rw [toNat_indexOf hp]
  constructor
  · intro h
    have hgroup : 0 = p.group.toNat := congrArg GroupAffinity.group h
    rw [Groups.IsProcessor, ← hgroup] at hp
    rw [← hgroup, hfirst, Nat.zero_add]
    exact hp
  · intro h
    obtain ⟨hgroup, hnumber⟩ := place_unique h hp (by rw [hfirst, Nat.zero_add])
    rw [← hgroup, hfirst, Nat.zero_add, workerRequest_eq, workerProcessor, GroupAffinity.single]
    simp only [Nat.mod_eq_of_lt hlt]

/--
For every system and every processor index below the total: the worker for it pins itself to its
processor, alone, if and only if that processor is in group 0 and there is no index 64 above.
-/
theorem pinsItself_iff (gs : Groups) (i : BitVec 32) (hi : i < gs.total) :
    PinsItself gs i ↔ i.toNat < sizeAt gs.sizes 0 ∧ gs.total.toNat ≤ i.toNat + 64 := by
  obtain ⟨p, hp, rfl⟩ := exists_indexOf hi
  have hnumber := keGetProcessorNumberFromIndex_place hp
  have htotal := gs.toNat_total
  have hsum := gs.sum_lt
  constructor
  · intro h
    obtain ⟨p', hp', hrequest⟩ := h.requests
    obtain rfl : p = p' := by
      rw [hnumber] at hp'
      cases hp'
      rfl
    refine ⟨(requests_iff hp).mp hrequest, ?_⟩
    by_contra hmore
    -- the worker 64 above asks for the same processor
    have hj : (BitVec.ofNat 32 ((gs.indexOf p).toNat + 64)).toNat = (gs.indexOf p).toNat + 64 := by
      rw [BitVec.toNat_ofNat, Nat.mod_eq_of_lt (by omega)]
    refine h.different (BitVec.ofNat 32 ((gs.indexOf p).toNat + 64)) ?_ ?_
      (workerProcessor (gs.indexOf p).toNat) ⟨(contains_workerRequest _ _).mpr rfl, ?_⟩
    · rw [BitVec.lt_def, hj]
      omega
    · intro heq
      rw [heq] at hj
      omega
    · rw [contains_workerRequest, workerProcessor_inj, hj, Nat.add_mod_right]
  · rintro ⟨hfirst, hlast⟩
    have hsmall := sizeAt_le gs 0
    refine ⟨⟨p, hnumber, (requests_iff hp).mpr hfirst⟩, ?_, seesItself (by omega)⟩
    rintro j hj hne q ⟨hqi, hqj⟩
    rw [contains_workerRequest] at hqi hqj
    rw [BitVec.lt_def] at hj
    have hmod := (workerProcessor_inj _ _).mp (hqi.symm.trans hqj)
    refine hne (BitVec.eq_of_toNat_eq ?_)
    omega

/-- Two groups of four processors. -/
def twoGroups : Groups where
  sizes := [4, 4]
  few := by decide
  small := by decide
  pos := by decide

theorem pinsItself_iff_firstGroup : PinsItself twoGroups 3 :=
  (pinsItself_iff twoGroups 3 (by decide)).mpr (by decide)

/-- Worker 4 is for the first processor of group 1 and asks for a fifth one of group 0. -/
theorem secondGroup_not_pinned :
    keGetProcessorNumberFromIndex (groupToIndexMap twoGroups) twoGroups.total 4 =
        some (.ok { group := 1, number := 0 }) ∧
      workerRequest 4 = { mask := 16, group := 0, reserved := 0 } ∧
      ¬ PinsItself twoGroups 4 := by
  refine ⟨by decide, by decide, fun h => ?_⟩
  obtain ⟨p, hp, hrequest⟩ := h.requests
  have hplace : keGetProcessorNumberFromIndex (groupToIndexMap twoGroups) twoGroups.total 4 =
      some (.ok { group := 1, number := 0 }) := by decide
  rw [hplace] at hp
  cases hp
  exact absurd hrequest (by decide)

end Usersim.Irql
