import Mathlib.Tactic.NormNum
import Mathlib.Tactic.SplitIfs
import Usersim.Platform.Basic

/-!
# Reference counting of the platform

After every call the resources should be up exactly while an initiate is outstanding, each set up
and torn down at most once in a period, and a failed initiate should leave no trace
(`CallSpec`). Nothing ever gives the dispatch locks back, so no terminate does that, and no
initiate that fails after they were made (`Meets`).

Apart from the dispatch locks (`CallSpecButLocks`) the code does it under a condition on the state
before a call (`MeetsButLocks`):

* a terminate is the last one outstanding — `usersim_platform_terminate` tears down before it
  looks at the count
* the `int32_t` count does not wrap
* starting a worker thread does not throw `std::system_error`, which no handler catches

`callSpecButLocks_iff_meets` and `callSpec_iff_meets` show that a run keeps each specification
exactly as long as every call meets its condition.
-/

namespace Usersim.Platform

open Lib

/-! ## The specification -/

/-- Every resource is live: cxplat, the thread pool with one dispatch lock per processor, and one
DPC worker per processor. -/
structure Up (n : Topology) (p : Globals) : Prop where
  cxplat : 0 < p.cxplatCount
  threadpool : p.threadpool = true
  dispatchLocks : p.dispatchLocks = n.processors
  workers : p.emulatedDpcs = n.processors

/-- No resource is live. -/
structure Down (p : Globals) : Prop where
  cxplat : p.cxplatCount = 0
  threadpool : p.threadpool = false
  callbackEnvironment : p.callbackEnvironment = false
  dispatchLocks : p.dispatchLocks = 0
  workers : p.emulatedDpcs = 0

theorem not_up_of_workers {n : Topology} {p : Globals} (h : p.emulatedDpcs = 0) : ¬ Up n p := by
  intro hu
  have hw := hu.workers
  have hp := n.pos
  omega

/-- What a failed initiate must leave as it was. -/
structure SameResources (p p' : Globals) : Prop where
  initiateCount : p'.initiateCount = p.initiateCount
  cxplatInitialized : p'.cxplatInitialized = p.cxplatInitialized
  cxplatCount : p'.cxplatCount = p.cxplatCount
  threadpool : p'.threadpool = p.threadpool
  callbackEnvironment : p'.callbackEnvironment = p.callbackEnvironment
  originalPriorityClass : p'.originalPriorityClass = p.originalPriorityClass
  dispatchLocks : p'.dispatchLocks = p.dispatchLocks
  emulatedDpcs : p'.emulatedDpcs = p.emulatedDpcs

/-- What must hold of the state after a call. -/
structure Spec (n : Topology) (s : State) : Prop where
  live_iff : (0 < s.outstanding → Up n s.platform) ∧ (s.outstanding = 0 → Down s.platform)
  setUp_once : ∀ r, s.platform.log.count (.setUp r) ≤ 1
  tearDown_once : ∀ r, s.platform.log.count (.tearDown r) ≤ 1

/-- What must hold after a call: the specification, and that an initiate that was not counted as
successful changed nothing. -/
def CallSpec (n : Topology) (s : State) (c : Call) : Prop :=
  ∀ s', step n s c = some s' →
    Spec n s' ∧ (∀ f, c = .initiate f → s'.outstanding = s.outstanding →
      SameResources s.platform s'.platform)

/-- No step before the DPC workers are created fails. -/
def Failures.ReachesWorkers (f : Failures) : Prop :=
  f.cxplat = false ∧ f.createThreadpool = false ∧ f.threadMinimum = false ∧
    f.getPriorityClass = false ∧ f.setPriorityClass = false ∧ f.dispatchLocks = false

/-- `std::thread` throws `std::system_error` for one of the workers. -/
def Failures.ThreadThrows (n : Topology) (f : Failures) : Prop :=
  f.ReachesWorkers ∧ ∃ i, i < n.processors ∧ f.worker = some (i, .systemError)

/-- Nothing fails from the DPC workers on. -/
def Failures.Completes (n : Topology) (f : Failures) : Prop :=
  (∀ w ∈ f.worker, n.processors ≤ w.1) ∧ f.groupMap = false

/-- The condition on a call and the state before it: a first-time initialization that has made the
dispatch locks does not fail, and nothing is torn down. -/
def Meets (n : Topology) (s : State) : Call → Prop
  | .terminate => False
  | .initiate f =>
    s.outstanding + 1 < 2 ^ 31 ∧ (s.outstanding = 0 → f.ReachesWorkers → f.Completes n)

instance (n : Topology) (s : State) (c : Call) : Decidable (Meets n s c) :=
  match c with
  | .terminate => isFalse id
  | .initiate f => by
    unfold Meets Failures.ReachesWorkers Failures.Completes
    infer_instance

/-! ## Apart from the dispatch locks -/

/-- The state with the dispatch locks cleared if no initiate is outstanding. -/
def State.clearLocks (s : State) : State :=
  if s.outstanding = 0 then { s with platform := { s.platform with dispatchLocks := 0 } } else s

/-- What must hold after a call, if the dispatch locks of earlier periods do not count. -/
def CallSpecButLocks (n : Topology) (s : State) (c : Call) : Prop :=
  ∀ s', step n s c = some s' →
    Spec n s'.clearLocks ∧ (∀ f, c = .initiate f → s'.outstanding = s.outstanding →
      SameResources s.clearLocks.platform s'.clearLocks.platform)

/-- The condition for that. -/
def MeetsButLocks (n : Topology) (s : State) : Call → Prop
  | .terminate => s.outstanding = 1
  | .initiate f => s.outstanding + 1 < 2 ^ 31 ∧ (s.outstanding = 0 → ¬ f.ThreadThrows n)

@[simp] theorem State.clearLocks_outstanding (s : State) :
    s.clearLocks.outstanding = s.outstanding := by
  unfold State.clearLocks
  split <;> rfl

@[simp] theorem State.clearLocks_log (s : State) : s.clearLocks.platform.log = s.platform.log := by
  unfold State.clearLocks
  split <;> rfl

@[simp] theorem State.clearLocks_cxplatCount (s : State) :
    s.clearLocks.platform.cxplatCount = s.platform.cxplatCount := by
  unfold State.clearLocks
  split <;> rfl

@[simp] theorem State.clearLocks_emulatedDpcs (s : State) :
    s.clearLocks.platform.emulatedDpcs = s.platform.emulatedDpcs := by
  unfold State.clearLocks
  split <;> rfl

theorem State.clearLocks_zero {s : State} (h : s.outstanding = 0) :
    s.clearLocks.platform = { s.platform with dispatchLocks := 0 } := by
  rw [State.clearLocks, if_pos h]

theorem State.clearLocks_pos {s : State} (h : 0 < s.outstanding) : s.clearLocks = s := by
  rw [State.clearLocks, if_neg (by omega)]

theorem State.clearLocks_eq_self {s : State}
    (h : s.outstanding = 0 → s.platform.dispatchLocks = 0) : s.clearLocks = s := by
  unfold State.clearLocks
  split
  · next h0 => rw [← h h0]
  · rfl

/-! ## The invariant -/

/-- The code's count is the number of outstanding initiates, and its flags follow it. -/
structure Inv (n : Topology) (s : State) : Prop where
  count : s.platform.initiateCount = s.outstanding
  bound : s.outstanding < 2 ^ 31
  up : 0 < s.outstanding → Up n s.platform ∧ s.platform.cxplatInitialized = true ∧
    s.platform.cxplatCount = 1 ∧ s.platform.originalPriorityClass = true ∧
    s.platform.callbackEnvironment = true ∧
    (∀ r, s.platform.log.count (.setUp r) = 1) ∧ ∀ r, s.platform.log.count (.tearDown r) = 0
  down : s.outstanding = 0 → Down { s.platform with dispatchLocks := 0 } ∧
    s.platform.cxplatInitialized = false ∧
    s.platform.originalPriorityClass = false ∧
    (∀ r, s.platform.log.count (.setUp r) ≤ 1) ∧ ∀ r, s.platform.log.count (.tearDown r) ≤ 1

theorem inv_init (n : Topology) : Inv n State.init where
  count := rfl
  bound := by decide
  up := fun h => by simp [State.init] at h
  down := fun _ => ⟨⟨rfl, rfl, rfl, rfl, rfl⟩, rfl, rfl, fun _ => Nat.zero_le _,
    fun _ => Nat.zero_le _⟩

theorem Inv.spec {n : Topology} {s : State} (h : Inv n s) : Spec n s.clearLocks := by
  rcases Nat.eq_zero_or_pos s.outstanding with h0 | hpos
  · obtain ⟨hd, -, -, hs, ht⟩ := h.down h0
    have hout : s.clearLocks.outstanding = 0 := s.clearLocks_outstanding.trans h0
    refine ⟨⟨fun hp => absurd hp (by omega), fun _ => ?_⟩, ?_, ?_⟩
    · rwa [State.clearLocks_zero h0]
    · rwa [s.clearLocks_log]
    · rwa [s.clearLocks_log]
  · obtain ⟨hu, -, -, -, -, hs, ht⟩ := h.up hpos
    rw [State.clearLocks_pos hpos]
    exact ⟨⟨fun _ => hu, fun h0 => absurd h0 (by omega)⟩, fun r => (hs r).le,
      fun r => (ht r).le.trans (Nat.zero_le 1)⟩

/-! ## Teardown -/

theorem wrap32_of_nat {k : Nat} (h : k < 2 ^ 31) : wrap32 (k : Int) = k := by
  unfold wrap32
  rw [Int.bmod_eq_of_le] <;> omega

/-- What a terminate adds to the log. -/
def tearDownLog (p : Globals) : List ResourceEvent :=
  (if p.cxplatInitialized ∧ p.cxplatCount ≤ 1 then [.tearDown .cxplat] else []) ++
    (if p.threadpool then [.tearDown .irql] else []) ++
    (if 0 < p.emulatedDpcs then [.tearDown .dpcs] else [])

theorem closeThreadpool_eq (p : Globals) :
    closeThreadpool p = { p with
      threadpool := false, callbackEnvironment := false,
      log := (if p.threadpool then [.tearDown .irql] else []) ++ p.log } := by
  unfold closeThreadpool
  cases p.threadpool <;> simp [Globals.record]

theorem usersimCleanUpDpcs_eq (p : Globals) :
    usersimCleanUpDpcs p = { p with
      emulatedDpcs := 0,
      log := (if 0 < p.emulatedDpcs then [.tearDown .dpcs] else []) ++ p.log } := by
  unfold usersimCleanUpDpcs
  by_cases h : 0 < p.emulatedDpcs
  · simp [Globals.record, h]
  · have h0 : p.emulatedDpcs = 0 := by omega
    simp only [h, if_false, List.nil_append]
    rw [← h0]

theorem cxplatCleanup_eq (p : Globals) :
    cxplatCleanup p = { p with
      cxplatCount := p.cxplatCount - 1,
      log := (if p.cxplatCount ≤ 1 then [.tearDown .cxplat] else []) ++ p.log } := by
  unfold cxplatCleanup
  by_cases h : p.cxplatCount ≤ 1
  · have h0 : ¬ 0 < p.cxplatCount - 1 := by omega
    simp only [h0, h, if_true, if_false, Globals.record, List.singleton_append]
  · have h0 : 0 < p.cxplatCount - 1 := by omega
    simp only [h0, h, if_true, if_false, List.nil_append]

/-- A terminate tears everything down, whatever the count is. -/
theorem terminate_eq (p : Globals) :
    usersimPlatformTerminate p = { p with
      initiateCount := wrap32 (p.initiateCount - 1), cxplatInitialized := false,
      cxplatCount := if p.cxplatInitialized then p.cxplatCount - 1 else p.cxplatCount,
      threadpool := false, callbackEnvironment := false, originalPriorityClass := false,
      emulatedDpcs := 0, log := tearDownLog p ++ p.log } := by
  unfold usersimPlatformTerminate usersimCleanUpIrql tearDownLog
  rw [usersimCleanUpDpcs_eq, closeThreadpool_eq]
  cases p.cxplatInitialized
  · simp
  · simp [cxplatCleanup_eq]

/-! ## A first-time initialization -/

/-- The platform before a first-time initialization: nothing is up, and the vector of dispatch
locks may still be there from an earlier period. -/
def fresh (locks : Nat) : Globals := { Globals.init with dispatchLocks := locks }

theorem Inv.eq_fresh {n : Topology} {s : State} (h : Inv n s) (h0 : s.outstanding = 0) :
    { s.platform with log := [] } = fresh s.platform.dispatchLocks := by
  obtain ⟨⟨hc, ht, he, -, hw⟩, hi, ho, -, -⟩ := h.down h0
  have hcount := h.count
  rw [h0] at hcount
  unfold fresh Globals.init
  simp only at hc ht he hw
  simp only [hc, ht, he, hw, hi, ho, hcount, Nat.cast_zero]

/-- How a first-time initialization ends when it does not fail. -/
def initialized (n : Topology) : Globals where
  initiateCount := 1
  cxplatInitialized := true
  cxplatCount := 1
  threadpool := true
  callbackEnvironment := true
  originalPriorityClass := true
  dispatchLocks := n.processors
  emulatedDpcs := n.processors
  log := [.setUp .dpcs, .setUp .irql, .setUp .cxplat]

/-- A first-time initialization that was undone: nothing is up but this many dispatch locks,
nothing was set up or torn down twice. -/
structure Undone (locks : Nat) (p : Globals) : Prop where
  eq_fresh : { p with log := [] } = fresh locks
  setUp_once : ∀ r, p.log.count (.setUp r) ≤ 1
  tearDown_once : ∀ r, p.log.count (.tearDown r) ≤ 1

/-- A first-time initialization on its way, at any point where it may still fail. -/
structure Underway (p : Globals) : Prop where
  count : p.initiateCount = 1
  cxplat : p.cxplatCount = if p.cxplatInitialized then 1 else 0
  setUp_once : ∀ r, p.log.count (.setUp r) ≤ 1
  tearDown_none : ∀ r, r ≠ .irql → p.log.count (.tearDown r) = 0
  /-- `usersim_initialize_irql` closes the pool itself when it fails. -/
  tearDown_irql : p.log.count (.tearDown .irql) = 0 ∨
    p.threadpool = false ∧ p.log.count (.tearDown .irql) = 1

theorem undone_terminate {p : Globals} (h : Underway p) :
    Undone p.dispatchLocks (usersimPlatformTerminate p) := by
  obtain ⟨hcount, hcx, hs, ht, hti⟩ := h
  rw [terminate_eq]
  refine ⟨?_, fun r => ?_, fun r => ?_⟩
  · have hz : (if p.cxplatInitialized then p.cxplatCount - 1 else p.cxplatCount) = 0 := by
      rw [hcx]
      split <;> rfl
    simp only [hcount, hz, fresh, Globals.init]
    rfl
  · have hnone : (tearDownLog p).count (.setUp r) = 0 := by
      unfold tearDownLog
      split_ifs <;> simp
    simp only [List.count_append, hnone, Nat.zero_add]
    exact hs r
  · have hnew : (tearDownLog p).count (.tearDown r) ≤ 1 ∧
        (p.threadpool = false → (tearDownLog p).count (.tearDown .irql) = 0) := by
      unfold tearDownLog
      cases r <;> split_ifs <;> simp_all
    simp only [List.count_append]
    by_cases hr : r = .irql
    · subst hr
      rcases hti with h0 | ⟨hp, h1⟩
      · omega
      · have hz := hnew.2 hp
        omega
    · have h0 := ht r hr
      omega

/-- After `cxplat_initialize`. -/
def cxplatUp (locks : Nat) : Globals :=
  { fresh locks with
    initiateCount := 1, cxplatInitialized := true, cxplatCount := 1, log := [.setUp .cxplat] }

/-- After `usersim_initialize_irql`. -/
def irqlUp (n : Topology) : Globals :=
  { cxplatUp n.processors with
    threadpool := true, callbackEnvironment := true, originalPriorityClass := true,
    log := [.setUp .irql, .setUp .cxplat] }

theorem underway_of_irql {p : Globals} (hcount : p.initiateCount = 1)
    (hi : p.cxplatInitialized = true) (hc : p.cxplatCount = 1)
    (hl : p.log = [.setUp .cxplat] ∨ p.log = [.setUp .irql, .setUp .cxplat] ∨
      p.threadpool = false ∧ p.log = [.tearDown .irql, .setUp .irql, .setUp .cxplat]) :
    Underway p := by
  refine ⟨hcount, by rw [hi, hc]; rfl, fun r => ?_, fun r hr => ?_, ?_⟩
  · rcases hl with hl | hl | ⟨-, hl⟩ <;> rw [hl] <;> cases r <;> decide
  · rcases hl with hl | hl | ⟨-, hl⟩ <;> rw [hl] <;> cases r <;>
      first | exact absurd rfl hr | decide
  · rcases hl with hl | hl | ⟨ht, hl⟩
    · exact Or.inl (by rw [hl]; decide)
    · exact Or.inl (by rw [hl]; decide)
    · exact Or.inr ⟨ht, by rw [hl]; decide⟩

theorem initializeIrql_cases (n : Topology) (f : Failures) (locks : Nat) (hc : f.cxplat = false) :
    (f.ReachesWorkers ∧ usersimInitializeIrql n f (cxplatUp locks) = (irqlUp n, .success)) ∨
      (¬ f.ReachesWorkers ∧ ∃ p o, usersimInitializeIrql n f (cxplatUp locks) = (p, o) ∧
        o ≠ .success ∧ Underway p ∧ p.dispatchLocks = locks) := by
  unfold usersimInitializeIrql Failures.ReachesWorkers
  simp only [closeThreadpool_eq, Globals.record]
  cases h1 : f.createThreadpool with
  | true =>
    exact Or.inr ⟨by simp, _, _, rfl, nofun, underway_of_irql rfl rfl rfl (Or.inl rfl), rfl⟩
  | false =>
  cases h2 : f.threadMinimum with
  | true =>
    exact Or.inr ⟨by simp, _, _, rfl, nofun,
      underway_of_irql rfl rfl rfl (Or.inr (Or.inr ⟨rfl, rfl⟩)), rfl⟩
  | false =>
  cases h3 : f.getPriorityClass with
  | true =>
    exact Or.inr ⟨by simp, _, _, rfl, nofun,
      underway_of_irql rfl rfl rfl (Or.inr (Or.inr ⟨rfl, rfl⟩)), rfl⟩
  | false =>
  cases h4 : f.setPriorityClass with
  | true =>
    exact Or.inr ⟨by simp, _, _, rfl, nofun,
      underway_of_irql rfl rfl rfl (Or.inr (Or.inr ⟨rfl, rfl⟩)), rfl⟩
  | false =>
  cases h5 : f.dispatchLocks with
  | true =>
    exact Or.inr ⟨by simp, _, _, rfl, nofun,
      underway_of_irql rfl rfl rfl (Or.inr (Or.inl rfl)), rfl⟩
  | false => exact Or.inl ⟨⟨hc, rfl, rfl, rfl, rfl, rfl⟩, rfl⟩

theorem initializeDpcs_cases (n : Topology) (f : Failures) :
    ((∀ w ∈ f.worker, n.processors ≤ w.1) ∧
        usersimInitializeDpcs n f (irqlUp n) = (initialized n, .success)) ∨
      (∃ i, i < n.processors ∧ f.worker = some (i, .systemError)) ∨
      ∃ i p, i < n.processors ∧ f.worker = some (i, .badAlloc) ∧
        usersimInitializeDpcs n f (irqlUp n) = (p, .badAlloc) ∧ Underway p ∧
        p.dispatchLocks = n.processors := by
  have hzero : (irqlUp n).emulatedDpcs = 0 := rfl
  have hfull : { irqlUp n with
      emulatedDpcs := (irqlUp n).emulatedDpcs + n.processors,
      log := .setUp .dpcs :: (irqlUp n).log } = initialized n := by
    rw [hzero, Nat.zero_add]
    rfl
  unfold usersimInitializeDpcs
  cases hw : f.worker with
  | none => exact Or.inl ⟨by simp, by rw [← hfull]; rfl⟩
  | some w =>
    obtain ⟨i, failure⟩ := w
    by_cases hi : i < n.processors
    · cases failure with
      | systemError => exact Or.inr (Or.inl ⟨i, hi, rfl⟩)
      | badAlloc =>
        refine Or.inr (Or.inr ⟨i, _, hi, rfl, by simp only [hi, if_true]; rfl,
          ⟨rfl, rfl, ?_, ?_, Or.inl rfl⟩, rfl⟩)
        · intro r
          cases r <;> simp [irqlUp, Globals.record]
        · intro r hr
          cases r <;> first | exact absurd rfl hr | simp [irqlUp, Globals.record]
    · refine Or.inl ⟨by simpa using hi, ?_⟩
      simp only [hi, if_false]
      rw [← hfull]
      rfl

theorem underway_fresh (locks : Nat) : Underway { fresh locks with initiateCount := 1 } :=
  ⟨rfl, rfl, fun _ => Nat.zero_le _, fun _ _ => rfl, Or.inl rfl⟩

theorem underway_initialized (n : Topology) : Underway (initialized n) := by
  refine ⟨rfl, rfl, fun r => ?_, fun r _ => ?_, Or.inl rfl⟩ <;> cases r <;> simp [initialized]

/-- Past the count, a first-time initialization is its three steps. -/
theorem initiate_fresh (n : Topology) (f : Failures) (locks : Nat) :
    usersimPlatformInitiate n f (fresh locks) =
      if f.cxplat then (usersimPlatformTerminate { fresh locks with initiateCount := 1 }, .failure)
      else
        match usersimInitializeIrql n f (cxplatUp locks) with
        | (p, .success) =>
          match usersimInitializeDpcs n f p with
          | (p, .success) =>
            if f.groupMap then (usersimPlatformTerminate p, .failure) else (p, .success)
          | (p, .systemError) => (p, .systemError)
          | (p, _) => (usersimPlatformTerminate p, .failure)
        | (p, _) => (usersimPlatformTerminate p, .failure) := by
  have hone : wrap32 ((fresh locks).initiateCount + 1) = 1 := wrap32_of_nat (k := 1) (by decide)
  unfold usersimPlatformInitiate
  rw [hone]
  cases f.cxplat <;> rfl

/-- How a first-time initialization ends, and how many dispatch locks it leaves if it fails. -/
theorem initiate_first {n : Topology} {f : Failures} (locks : Nat) (hf : ¬ f.ThreadThrows n) :
    (f.ReachesWorkers ∧ f.Completes n ∧
        usersimPlatformInitiate n f (fresh locks) = (initialized n, .success)) ∨
      ∃ p left, usersimPlatformInitiate n f (fresh locks) = (p, .failure) ∧ Undone left p ∧
        (¬ f.ReachesWorkers ∧ left = locks ∨
          f.ReachesWorkers ∧ ¬ f.Completes n ∧ left = n.processors) := by
  rw [initiate_fresh]
  cases hc : f.cxplat with
  | true =>
    refine Or.inr ⟨_, _, rfl, undone_terminate (underway_fresh locks), Or.inl ⟨?_, rfl⟩⟩
    simp [Failures.ReachesWorkers, hc]
  | false =>
    rw [if_neg (by simp)]
    rcases initializeIrql_cases n f locks hc with ⟨hr, hi⟩ | ⟨hr, p, o, hi, ho, hu, hlocks⟩
    · rw [hi]
      rcases initializeDpcs_cases n f with ⟨hw, hd⟩ | hd | ⟨i, p, hlt, hw, hd, hu, hlocks⟩
      · simp only [hd]
        cases hg : f.groupMap with
        | true =>
          exact Or.inr ⟨_, _, rfl, undone_terminate (underway_initialized n),
            Or.inr ⟨hr, by simp [Failures.Completes, hg], rfl⟩⟩
        | false => exact Or.inl ⟨hr, ⟨hw, hg⟩, rfl⟩
      · exact absurd ⟨hr, hd⟩ hf
      · simp only [hd]
        refine Or.inr ⟨_, _, rfl, undone_terminate hu, Or.inr ⟨hr, fun hcomp => ?_, hlocks⟩⟩
        have hle : n.processors ≤ i := hcomp.1 _ hw
        omega
    · rw [hi]
      refine Or.inr ⟨usersimPlatformTerminate p, _, ?_, undone_terminate hu, Or.inl ⟨hr, hlocks⟩⟩
      cases o with
      | success => exact absurd rfl ho
      | failure => rfl
      | badAlloc => rfl
      | systemError => rfl

/-- An uncaught `std::system_error` leaves cxplat and the count up. -/
theorem initiate_first_throws {n : Topology} {f : Failures} (locks : Nat)
    (hf : f.ThreadThrows n) :
    ∃ p, usersimPlatformInitiate n f (fresh locks) = (p, .systemError) ∧ p.cxplatCount = 1 := by
  obtain ⟨hr, i, hi, hw⟩ := hf
  rw [initiate_fresh, if_neg (by simp [hr.1])]
  rcases initializeIrql_cases n f locks hr.1 with ⟨-, hirql⟩ | ⟨hn, -⟩
  · rw [hirql]
    simp only [usersimInitializeDpcs, hw, hi, if_true]
    exact ⟨_, rfl, rfl⟩
  · exact absurd hr hn

/-! ## A nested initiate, and the one that wraps the count -/

theorem initiate_nested {n : Topology} {f : Failures} {p : Globals} {k : Nat}
    (hc : p.initiateCount = k) (hk : 0 < k) (hlt : k + 1 < 2 ^ 31) :
    usersimPlatformInitiate n f p = ({ p with initiateCount := (k + 1 : Nat) }, .success) := by
  have hw : wrap32 (p.initiateCount + 1) = (k + 1 : Nat) := by
    rw [hc]
    exact wrap32_of_nat hlt
  unfold usersimPlatformInitiate
  rw [hw, if_pos (by simp only; omega)]

theorem initializeIrql_log {n : Topology} {f : Failures} {p p' : Globals}
    (h : usersimInitializeIrql n f p = (p', .success)) : p'.log = .setUp .irql :: p.log := by
  unfold usersimInitializeIrql at h
  cases h1 : f.createThreadpool <;> cases h2 : f.threadMinimum <;>
    cases h3 : f.getPriorityClass <;> cases h4 : f.setPriorityClass <;>
    cases h5 : f.dispatchLocks <;> simp [h1, h2, h3, h4, h5] at h
  rw [← h]
  rfl

theorem initializeDpcs_log {n : Topology} {f : Failures} {p p' : Globals} {o : Outcome}
    (h : usersimInitializeDpcs n f p = (p', o)) : p'.log = .setUp .dpcs :: p.log := by
  unfold usersimInitializeDpcs at h
  split at h
  · split at h <;> (cases h; rfl)
  · cases h
    rfl

/-- An initiate that does not take the early return either ends with everything torn down, or
sets the thread pool up. -/
theorem initiate_again {n : Topology} {f : Failures} {p p' : Globals} {o : Outcome}
    (hw : ¬ 1 < wrap32 (p.initiateCount + 1)) (hcx : 0 < p.cxplatCount)
    (h : usersimPlatformInitiate n f p = (p', o)) :
    p'.emulatedDpcs = 0 ∨ p.log.count (.setUp .irql) < p'.log.count (.setUp .irql) := by
  unfold usersimPlatformInitiate at h
  simp only [hw, if_false, cxplatInitialize] at h
  cases hc : f.cxplat with
  | true =>
    simp only [hc, if_true] at h
    cases h
    exact Or.inl (by rw [terminate_eq])
  | false =>
    simp only [hc, hcx, if_true, Bool.false_eq_true, if_false] at h
    split at h
    · next p₁ hirql =>
      have hlog := initializeIrql_log hirql
      split at h
      · next p₂ hdpcs =>
        have hlog₂ := initializeDpcs_log hdpcs
        split at h
        · cases h
          exact Or.inl (by rw [terminate_eq])
        · cases h
          exact Or.inr (by rw [hlog₂, hlog]; simp)
      · next p₂ hdpcs =>
        have hlog₂ := initializeDpcs_log hdpcs
        cases h
        exact Or.inr (by rw [hlog₂, hlog]; simp)
      · cases h
        exact Or.inl (by rw [terminate_eq])
    · cases h
      exact Or.inl (by rw [terminate_eq])

/-! ## One call -/

theorem step_initiate (n : Topology) (s : State) (f : Failures) :
    ∃ p o, usersimPlatformInitiate n f
        (if s.outstanding = 0 then { s.platform with log := [] } else s.platform) = (p, o) ∧
      step n s (.initiate f) = some
        { platform := p,
          outstanding := if o = .success then s.outstanding + 1 else s.outstanding } := by
  rcases hpo : usersimPlatformInitiate n f
    (if s.outstanding = 0 then { s.platform with log := [] } else s.platform) with ⟨p, o⟩
  refine ⟨p, o, rfl, ?_⟩
  simp only [step]
  rw [hpo]
  cases o <;> rfl

theorem inv_initialized (n : Topology) :
    Inv n { platform := initialized n, outstanding := 1 } where
  count := rfl
  bound := by norm_num
  up := fun _ => ⟨⟨Nat.one_pos, rfl, rfl, rfl⟩, rfl, rfl, rfl, rfl,
    fun r => by cases r <;> simp [initialized], fun r => by cases r <;> simp [initialized]⟩
  down := fun h => absurd h (by norm_num)

theorem inv_undone {n : Topology} {p : Globals} {locks : Nat} (h : Undone locks p) :
    Inv n { platform := p, outstanding := 0 } := by
  obtain ⟨heq, hs, ht⟩ := h
  have hfield : ∀ {β : Type} (g : Globals → β), g { p with log := [] } = g (fresh locks) :=
    fun g => by rw [heq]
  exact {
    count := hfield Globals.initiateCount
    bound := by norm_num
    up := fun h => absurd h (by norm_num)
    down := fun _ => ⟨⟨hfield Globals.cxplatCount, hfield Globals.threadpool,
      hfield Globals.callbackEnvironment, rfl, hfield Globals.emulatedDpcs⟩,
      hfield Globals.cxplatInitialized, hfield Globals.originalPriorityClass, hs, ht⟩ }

theorem sameResources_of_inv {n : Topology} {s s' : State} (h : Inv n s) (h' : Inv n s')
    (h0 : s.outstanding = 0) (h0' : s'.outstanding = 0) :
    SameResources s.clearLocks.platform s'.clearLocks.platform := by
  obtain ⟨⟨hc, ht, he, -, hw⟩, hi, ho, -, -⟩ := h.down h0
  obtain ⟨⟨hc', ht', he', -, hw'⟩, hi', ho', -, -⟩ := h'.down h0'
  rw [State.clearLocks_zero h0, State.clearLocks_zero h0']
  exact ⟨by simp only [h.count, h'.count, h0, h0'], hi'.trans hi.symm, hc'.trans hc.symm,
    ht'.trans ht.symm, he'.trans he.symm, ho'.trans ho.symm, rfl, hw'.trans hw.symm⟩

/-- A call that meets the condition keeps the invariant, and an initiate that fails changes
nothing. -/
theorem inv_step {n : Topology} {s s' : State} {c : Call} (h : Inv n s)
    (hm : MeetsButLocks n s c) (hs : step n s c = some s') :
    Inv n s' ∧ (∀ f, c = .initiate f → s'.outstanding = s.outstanding →
      SameResources s.clearLocks.platform s'.clearLocks.platform) := by
  cases c with
  | terminate =>
    have hone : s.outstanding = 1 := hm
    obtain ⟨hu, hi, hc, -, -, hset, htear⟩ := h.up (by omega)
    have hzero : s'.outstanding = 0 ∧ s'.platform = usersimPlatformTerminate s.platform := by
      simp only [step, hone] at hs
      cases hs
      exact ⟨rfl, rfl⟩
    refine ⟨?_, nofun⟩
    have hunder : Underway s.platform := by
      refine ⟨by rw [h.count, hone]; rfl, by rw [hi, hc]; rfl, fun r => (hset r).le, ?_, ?_⟩
      · exact fun r _ => htear r
      · exact Or.inl (htear .irql)
    obtain ⟨p', k'⟩ := s'
    obtain ⟨rfl, rfl⟩ := hzero
    exact inv_undone (undone_terminate hunder)
  | initiate f =>
    obtain ⟨hlt, hthrow⟩ := hm
    obtain ⟨p, o, hp, hstep⟩ := step_initiate n s f
    rw [hstep] at hs
    cases hs
    rcases Nat.eq_zero_or_pos s.outstanding with h0 | hpos
    · rw [if_pos h0, h.eq_fresh h0] at hp
      rcases initiate_first s.platform.dispatchLocks (hthrow h0) with
        ⟨-, -, hok⟩ | ⟨q, left, hfail, hund, -⟩
      · rw [hok] at hp
        cases hp
        simp only [if_true, h0]
        exact ⟨inv_initialized n, fun _ _ he => absurd he (by omega)⟩
      · rw [hfail] at hp
        obtain ⟨rfl, rfl⟩ := Prod.mk.inj hp
        have hinv : Inv n { platform := q, outstanding := 0 } := inv_undone hund
        simp only [reduceCtorEq, if_false, h0]
        exact ⟨hinv, fun _ _ _ => sameResources_of_inv h hinv h0 rfl⟩
    · rw [if_neg (by omega), initiate_nested h.count hpos hlt] at hp
      cases hp
      simp only [if_true]
      refine ⟨⟨rfl, hlt, fun _ => ?_, fun h0 => absurd h0 (by simp)⟩,
        fun _ _ he => absurd he (by omega)⟩
      obtain ⟨⟨hu1, hu2, hu3, hu4⟩, hrest⟩ := h.up hpos
      exact ⟨⟨hu1, hu2, hu3, hu4⟩, hrest⟩

/-- A call that does not meet the condition breaks the specification at once. -/
theorem not_spec_step {n : Topology} {s s' : State} {c : Call} (h : Inv n s)
    (hm : ¬ MeetsButLocks n s c) (hs : step n s c = some s') : ¬ Spec n s'.clearLocks := by
  intro hspec
  cases c with
  | terminate =>
    have hne : s.outstanding ≠ 1 := hm
    simp only [step] at hs
    split at hs
    · cases hs
    · cases hs
      refine not_up_of_workers ?_ (hspec.live_iff.1 ?_)
      · rw [State.clearLocks_emulatedDpcs, terminate_eq]
      · rw [State.clearLocks_outstanding]
        simp only
        omega
  | initiate f =>
    obtain ⟨p, o, hp, hstep⟩ := step_initiate n s f
    rw [hstep] at hs
    cases hs
    by_cases hlt : s.outstanding + 1 < 2 ^ 31
    · -- only a first-time initialization can still go wrong
      have hthrow : s.outstanding = 0 ∧ f.ThreadThrows n := by
        by_contra hcon
        exact hm ⟨hlt, fun h0 ht => hcon ⟨h0, ht⟩⟩
      obtain ⟨h0, ht⟩ := hthrow
      rw [if_pos h0, h.eq_fresh h0] at hp
      obtain ⟨q, hq, hcx⟩ := initiate_first_throws s.platform.dispatchLocks ht
      rw [hq] at hp
      cases hp
      have hdown := hspec.live_iff.2 (by simp [h0])
      have hz := hdown.cxplat
      rw [State.clearLocks_cxplatCount] at hz
      simp only at hz
      omega
    · -- the count is at its maximum, so the increment wraps to a negative number
      have hmax : s.outstanding = 2 ^ 31 - 1 := by
        have hb := h.bound
        omega
      have hpos : 0 < s.outstanding := by omega
      obtain ⟨hu, -, -, -, -, hset, -⟩ := h.up hpos
      rw [if_neg (by omega)] at hp
      have hw : ¬ 1 < wrap32 (s.platform.initiateCount + 1) := by
        rw [h.count, hmax]
        decide
      rcases initiate_again hw hu.cxplat hp with hz | hlog
      · refine not_up_of_workers ?_ (hspec.live_iff.1 ?_)
        · rw [State.clearLocks_emulatedDpcs]
          exact hz
        · rw [State.clearLocks_outstanding]
          simp only
          split <;> omega
      · have honce := hspec.setUp_once .irql
        have hone := hset .irql
        rw [State.clearLocks_log] at honce
        simp only at honce
        omega

/-! ## Runs, apart from the dispatch locks -/

/-- A call meets the condition exactly when the state after it is as specified. -/
theorem callSpecButLocks_iff {n : Topology} {s s' : State} {c : Call} (h : Inv n s)
    (hs : step n s c = some s') : CallSpecButLocks n s c ↔ MeetsButLocks n s c := by
  constructor
  · intro hc
    by_contra hm
    exact not_spec_step h hm hs (hc s' hs).1
  · intro hm s₂ h₂
    obtain ⟨hinv, hsame⟩ := inv_step h hm h₂
    exact ⟨hinv.spec, hsame⟩

/--
For every sequence of calls in which terminates never exceed successful initiates: every call
leaves the platform as specified, apart from the dispatch locks, if and only if every call meets
the condition for that.
-/
theorem callSpecButLocks_iff_meets (n : Topology) (cs : List Call) (s : State)
    (hrun : exec (step n) State.init cs = some s) :
    Guarded (step n) (CallSpecButLocks n) State.init cs ↔
      Guarded (step n) (MeetsButLocks n) State.init cs :=
  guarded_iff_of_exec (P := Inv n) (fun _ _ _ h hs => callSpecButLocks_iff h hs)
    (fun _ _ _ h hm hs => (inv_step h hm hs).1) (inv_init n) hrun

/-! ## The dispatch locks -/

/-- How many dispatch locks a first-time initialization leaves behind. -/
theorem step_first {n : Topology} {s s' : State} {f : Failures} (h : Inv n s)
    (h0 : s.outstanding = 0) (hf : ¬ f.ThreadThrows n) (hs : step n s (.initiate f) = some s') :
    (f.ReachesWorkers ∧ f.Completes n ∧ s'.outstanding = 1) ∨
      s'.outstanding = 0 ∧
        (¬ f.ReachesWorkers ∧ s'.platform.dispatchLocks = s.platform.dispatchLocks ∨
          f.ReachesWorkers ∧ ¬ f.Completes n ∧ s'.platform.dispatchLocks = n.processors) := by
  obtain ⟨p, o, hp, hstep⟩ := step_initiate n s f
  rw [hstep] at hs
  cases hs
  rw [if_pos h0, h.eq_fresh h0] at hp
  rcases initiate_first s.platform.dispatchLocks hf with ⟨hr, hc, hok⟩ | ⟨q, left, hfail, hund, hl⟩
  · rw [hok] at hp
    cases hp
    exact Or.inl ⟨hr, hc, by simp [h0]⟩
  · rw [hfail] at hp
    cases hp
    have hlocks : p.dispatchLocks = left := congrArg Globals.dispatchLocks hund.eq_fresh
    exact Or.inr ⟨by simp [h0], by simpa only [hlocks] using hl⟩

/-- Between two periods there are no dispatch locks either. -/
structure Tidy (n : Topology) (s : State) : Prop where
  inv : Inv n s
  locks : s.outstanding = 0 → s.platform.dispatchLocks = 0

theorem tidy_init (n : Topology) : Tidy n State.init := ⟨inv_init n, fun _ => rfl⟩

theorem Tidy.spec {n : Topology} {s : State} (h : Tidy n s) : Spec n s :=
  State.clearLocks_eq_self h.locks ▸ h.inv.spec

theorem Spec.clearLocks {n : Topology} {s : State} (h : Spec n s) : Spec n s.clearLocks := by
  have hself : s.clearLocks = s :=
    State.clearLocks_eq_self fun h0 => (h.live_iff.2 h0).dispatchLocks
  rwa [hself]

theorem Meets.butLocks {n : Topology} {s : State} {f : Failures} (hm : Meets n s (.initiate f)) :
    MeetsButLocks n s (.initiate f) := by
  refine ⟨hm.1, fun h0 ht => ?_⟩
  obtain ⟨hr, i, hi, hw⟩ := ht
  have hle : n.processors ≤ i := (hm.2 h0 hr).1 _ hw
  omega

theorem tidy_step {n : Topology} {s s' : State} {c : Call} (h : Tidy n s) (hm : Meets n s c)
    (hs : step n s c = some s') :
    Tidy n s' ∧ (∀ f, c = .initiate f → s'.outstanding = s.outstanding →
      SameResources s.platform s'.platform) := by
  cases c with
  | terminate => exact hm.elim
  | initiate f =>
    obtain ⟨hinv, hsame⟩ := inv_step h.inv hm.butLocks hs
    have hlocks : s'.outstanding = 0 → s'.platform.dispatchLocks = 0 := by
      intro h0'
      have h0 : s.outstanding = 0 := by
        obtain ⟨p, o, -, hstep⟩ := step_initiate n s f
        rw [hstep] at hs
        cases hs
        simp only at h0'
        split at h0' <;> omega
      rcases step_first h.inv h0 (hm.butLocks.2 h0) hs with ⟨-, -, h1⟩ | ⟨-, ⟨-, hl⟩ | ⟨hr, hc, -⟩⟩
      · omega
      · rw [hl]
        exact h.locks h0
      · exact absurd (hm.2 h0 hr) hc
    refine ⟨⟨hinv, hlocks⟩, fun g hg hout => ?_⟩
    have hres := hsame g hg hout
    rwa [State.clearLocks_eq_self h.locks, State.clearLocks_eq_self hlocks] at hres

/-- A terminate leaves its dispatch locks, and so does an initiate that fails after it made them. -/
theorem Tidy.meets {n : Topology} {s s' : State} {c : Call} (h : Tidy n s)
    (hbut : MeetsButLocks n s c) (hs : step n s c = some s') (hspec : Spec n s') :
    Meets n s c := by
  have hpos := n.pos
  cases c with
  | terminate =>
    have hone : s.outstanding = 1 := hbut
    have hup := (h.inv.up (by omega)).1
    have hplat : s' = { platform := usersimPlatformTerminate s.platform, outstanding := 0 } := by
      simp only [step, hone] at hs
      cases hs
      rfl
    have hdown := (hspec.live_iff.2 (by rw [hplat])).dispatchLocks
    rw [hplat] at hdown
    simp only [terminate_eq, hup.dispatchLocks] at hdown
    omega
  | initiate f =>
    refine ⟨hbut.1, fun h0 hr => ?_⟩
    by_contra hc
    rcases step_first h.inv h0 (hbut.2 h0) hs with ⟨-, hc', -⟩ | ⟨h0', ⟨hn, -⟩ | ⟨-, -, hl⟩⟩
    · exact hc hc'
    · exact hn hr
    · have hdown := (hspec.live_iff.2 h0').dispatchLocks
      omega

/-! ## Runs -/

/-- A call meets the condition exactly when the state after it is as specified. -/
theorem callSpec_iff {n : Topology} {s s' : State} {c : Call} (h : Tidy n s)
    (hs : step n s c = some s') : CallSpec n s c ↔ Meets n s c := by
  constructor
  · intro hc
    have hspec := (hc s' hs).1
    refine h.meets ?_ hs hspec
    by_contra hm
    exact not_spec_step h.inv hm hs hspec.clearLocks
  · intro hm s₂ h₂
    obtain ⟨htidy, hsame⟩ := tidy_step h hm h₂
    exact ⟨htidy.spec, hsame⟩

/--
For every sequence of calls in which terminates never exceed successful initiates: every call
leaves the platform as specified if and only if every call meets the condition.
-/
theorem callSpec_iff_meets (n : Topology) (cs : List Call) (s : State)
    (hrun : exec (step n) State.init cs = some s) :
    Guarded (step n) (CallSpec n) State.init cs ↔ Guarded (step n) (Meets n) State.init cs :=
  guarded_iff_of_exec (P := Tidy n) (fun _ _ _ h hs => callSpec_iff h hs)
    (fun _ _ _ h hm hs => (tidy_step h hm hs).1) (tidy_init n) hrun

/-- Two processors. -/
def twoProcessors : Topology := ⟨2, by decide⟩

/-- An initiate that fails at once, and two that succeed. -/
def failsFirst : List Call := [.initiate { cxplat := true }, .initiate {}, .initiate {}]

theorem callSpec_iff_meets_failsFirst :
    Guarded (step twoProcessors) (CallSpec twoProcessors) State.init failsFirst :=
  (callSpec_iff_meets twoProcessors failsFirst _ rfl).mpr (guarded_of_check (by decide +kernel))

/-- Two initiates and one terminate. -/
def nested : List Call := [.initiate {}, .initiate {}, .terminate]

/-- One terminate after two initiates: one initiate is still outstanding, no worker is left. One
terminate after one initiate: nothing is outstanding, the dispatch locks are left. -/
theorem nested_not_callSpec :
    (∃ s, exec (step twoProcessors) State.init nested = some s ∧ s.outstanding = 1 ∧
      s.platform.emulatedDpcs = 0 ∧ s.platform.threadpool = false) ∧
    ¬ Guarded (step twoProcessors) (CallSpec twoProcessors) State.init nested ∧
    (∃ s, exec (step twoProcessors) State.init [.initiate {}, .terminate] = some s ∧
      s.outstanding = 0 ∧ s.platform.dispatchLocks = 2) ∧
    ¬ Guarded (step twoProcessors) (CallSpec twoProcessors) State.init
      [.initiate {}, .terminate] := by
  refine ⟨⟨_, rfl, rfl, rfl, rfl⟩, fun h => ?_, ⟨_, rfl, rfl, rfl⟩, fun h => ?_⟩
  · have hlast := (h.2 _ rfl).2 _ rfl
    have hup := (hlast.1 _ rfl).1.live_iff.1 (by decide)
    exact not_up_of_workers rfl hup
  · have hlast := h.2 _ rfl
    have hdown := ((hlast.1 _ rfl).1.live_iff.2 rfl).dispatchLocks
    cases hdown

end Usersim.Platform
