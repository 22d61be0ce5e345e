import Usersim.Irql.Exclusion

/-!
# The calls of one thread (`ke.cpp`)

What a thread sees of the levels, its affinity and its priority is all thread-local: the dispatch
locks and the spin locks only make it wait. `call` is a whole call of one thread, the steps of
`Irql.Basic` one after the other with the locks granted (`exec_raise`, `exec_lower`).

The system calls succeed: the masks that are asked for are valid.
-/

namespace Usersim.Irql

open Lib

/-- The affinity of the process, which is never empty. -/
structure System where
  processMask : BitVec 64
  ne_zero : processMask ≠ 0

def System.reply (sys : System) : OsReply where
  setThreadGroupAffinity := true
  setThreadPriority := true
  processMask := some sys.processMask

/-- The affinity a thread has if nothing was asked for. -/
def System.defaultAffinity (sys : System) : Processor → Bool :=
  GroupAffinity.contains { mask := sys.processMask, group := 0, reserved := 0 }

/-- The processors an affinity stands for; without a mask it is the default. -/
def System.affinity (sys : System) (a : GroupAffinity) : Processor → Bool :=
  if a.mask = 0 then sys.defaultAffinity else a.contains

/-- A thread, with its most recent request for an affinity, which is not part of the code. -/
structure Thread where
  locals : ThreadLocals
  requested : GroupAffinity

def noAffinity : GroupAffinity where
  mask := 0
  group := 0
  reserved := 0

/-- A new thread with the priority the system gives it. -/
def Thread.init (sys : System) (priority : Int) : Thread where
  locals := { ThreadLocals.init sys.defaultAffinity .idle with osPriority := priority }
  requested := noAffinity

/-- The calls; a lower goes back to the level that the matching raise returned. -/
inductive Call where
  /-- `KfRaiseIrql`, `KeRaiseIrql` and `KeRaiseIrqlToDpcLevel`, on a processor. -/
  | kfRaiseIrql (new : Nat) (processor : Processor)
  | keLowerIrql
  | keAcquireSpinLock (spin : Nat) (processor : Processor)
  | keReleaseSpinLock (spin : Nat)
  | keSetSystemAffinityThreadEx (affinity : BitVec 64)
  | keRevertToUserAffinityThreadEx (affinity : BitVec 64)
  | keSetSystemGroupAffinityThread (affinity : GroupAffinity)
  | keRevertToUserGroupAffinityThread (previous : GroupAffinity)
deriving DecidableEq, Repr

/-- The dispatch lock and the spin lock are granted. -/
def granted (l : ThreadLocals) : ThreadLocals :=
  match l.pc with
  | .raising processor _ => { l with pc := .idle, raisedOn := some processor }
  | .acquiring _ => { l with pc := .idle }
  | _ => l

/-- A raise to a level up to `DISPATCH_LEVEL`, on a processor that the thread may run on. -/
def raise (sys : System) (l : ThreadLocals) (new : Nat) (processor : Processor)
    (spin : Option Nat) : Option ThreadLocals :=
  if l.currentIrql ≤ new ∧ new ≤ dispatchLevel ∧
      (dispatchLevel ≤ new ∧ l.currentIrql < dispatchLevel → l.osAffinity processor = true) then
    some (granted (kfRaiseIrql l new processor spin sys.reply))
  else none

/-- `KeLowerIrql`. -/
def keLowerIrql (sys : System) (l : ThreadLocals) (new : Nat) : ThreadLocals :=
  if dispatchLevel ≤ l.currentIrql ∧ new < dispatchLevel then
    finishLowerIrql { l with pc := .lowering new, raisedOn := none } new sys.reply
  else setLoweredIrql l new sys.reply

/-- A lower to the level that the matching raise returned. -/
def lower (sys : System) (l : ThreadLocals) : Option ThreadLocals :=
  l.saved.head?.map (keLowerIrql sys l)

/-- What a call of `KeSetSystemAffinityThreadEx` asks for. -/
def exRequest (l : ThreadLocals) (affinity : BitVec 64) : GroupAffinity where
  mask := affinity
  group := l.groupAffinityCache.group
  reserved := 0

def call (sys : System) (s : Thread) : Call → Option Thread
  | .kfRaiseIrql new processor =>
    (raise sys s.locals new processor none).map fun l => { s with locals := l }
  | .keAcquireSpinLock spin processor =>
    (raise sys s.locals dispatchLevel processor (some spin)).map fun l => { s with locals := l }
  | .keLowerIrql | .keReleaseSpinLock _ =>
    (lower sys s.locals).map fun l => { s with locals := l }
  | .keSetSystemAffinityThreadEx affinity =>
    some { locals := (keSetSystemAffinityThreadEx s.locals affinity sys.reply).1
           requested := exRequest s.locals affinity }
  | .keRevertToUserAffinityThreadEx affinity =>
    some { locals := keRevertToUserAffinityThreadEx s.locals affinity sys.reply
           requested := exRequest s.locals affinity }
  | .keSetSystemGroupAffinityThread affinity =>
    some { locals := (keSetSystemGroupAffinityThread s.locals affinity sys.reply).1
           requested := affinity }
  | .keRevertToUserGroupAffinityThread previous =>
    some { locals := keRevertToUserGroupAffinityThread s.locals previous sys.reply
           requested := previous }

/-! ## Calls as equations -/

variable {sys : System} {l l' : ThreadLocals} {p : Processor}

/-- The shortcut apart, an affinity that is set is the one the system has afterwards. -/
theorem setAffinity_reply (sys : System) (l : ThreadLocals) (new : GroupAffinity) :
    usersimSetCurrentThreadAffinity l new sys.reply =
      some ({ l with
          osAffinity := if new = l.groupAffinityCache then l.osAffinity else sys.affinity new
          groupAffinityCache := new }, l.groupAffinityCache) := by
  unfold usersimSetCurrentThreadAffinity
  by_cases hsame : new = l.groupAffinityCache
  · rw [if_pos hsame, if_pos hsame]
    simp [hsame]
  · rw [if_neg hsame, if_neg hsame]
    unfold System.affinity
    by_cases hzero : new.mask = 0
    · rw [if_pos hzero, if_pos hzero]
      have hmask : sys.processMask ≠ 0 ∧ True := ⟨sys.ne_zero, trivial⟩
      simp only [System.reply, System.defaultAffinity, if_pos hmask]
    · rw [if_neg hzero, if_neg hzero]
      rfl

/-- A raise that stays below `DISPATCH_LEVEL`, or starts there. -/
theorem granted_nested {new : Nat} {spin : Option Nat} {r : OsReply}
    (h : ¬ (dispatchLevel ≤ new ∧ l.currentIrql < dispatchLevel)) :
    granted (kfRaiseIrql l new p spin r) =
      { l with currentIrql := new, saved := l.currentIrql :: l.saved, pc := .idle } := by
  rw [kfRaiseIrql_nested h]
  cases spin <;> rfl

/-- A raise to `DISPATCH_LEVEL` pins the thread and saves what the cache held. -/
theorem kfRaiseIrql_reply {new : Nat} {spin : Option Nat}
    (h : dispatchLevel ≤ new ∧ l.currentIrql < dispatchLevel) :
    kfRaiseIrql l new p spin sys.reply =
      { l with
        currentIrql := new
        saved := l.currentIrql :: l.saved
        osAffinity := if .single p = l.groupAffinityCache then l.osAffinity
          else sys.affinity (.single p)
        groupAffinityCache := .single p
        groupBeforeRaiseIrql := l.groupAffinityCache
        pc := .raising p spin } := by
  unfold kfRaiseIrql
  simp only [setPriority_same, if_pos h, setAffinity_reply]

theorem granted_dispatch {new : Nat} {spin : Option Nat}
    (h : dispatchLevel ≤ new ∧ l.currentIrql < dispatchLevel) :
    granted (kfRaiseIrql l new p spin sys.reply) =
      { l with
        currentIrql := new
        saved := l.currentIrql :: l.saved
        osAffinity := if .single p = l.groupAffinityCache then l.osAffinity
          else sys.affinity (.single p)
        groupAffinityCache := .single p
        groupBeforeRaiseIrql := l.groupAffinityCache
        pc := .idle
        raisedOn := some p } := by
  rw [kfRaiseIrql_reply h]
  rfl

/-- A lower that stays above `DISPATCH_LEVEL`, or starts below. -/
theorem keLowerIrql_nested {new : Nat}
    (h : ¬ (dispatchLevel ≤ l.currentIrql ∧ new < dispatchLevel)) :
    keLowerIrql sys l new =
      { l with currentIrql := new, saved := l.saved.tail, pc := .idle } := by
  unfold keLowerIrql
  rw [if_neg h, setLoweredIrql_eq]

/-- A lower from `DISPATCH_LEVEL` sets the affinity that was saved. -/
theorem keLowerIrql_dispatch {new : Nat}
    (h : dispatchLevel ≤ l.currentIrql ∧ new < dispatchLevel) :
    keLowerIrql sys l new =
      { l with
        currentIrql := new
        saved := l.saved.tail
        osAffinity := if l.groupBeforeRaiseIrql = l.groupAffinityCache then l.osAffinity
          else sys.affinity l.groupBeforeRaiseIrql
        groupAffinityCache := l.groupBeforeRaiseIrql
        pc := .idle
        raisedOn := none } := by
  unfold keLowerIrql finishLowerIrql
  simp only [if_pos h, setAffinity_reply, setLoweredIrql_eq]

/-- A request at `DISPATCH_LEVEL` goes into the cache and into the saved affinity. -/
theorem keSetSystemAffinityThreadEx_dispatch {mask : BitVec 64} {r : OsReply}
    (h : dispatchLevel ≤ l.currentIrql) :
    (keSetSystemAffinityThreadEx l mask r).1 =
      { l with
        groupAffinityCache := exRequest l mask
        groupBeforeRaiseIrql := exRequest l mask } := by
  unfold keSetSystemAffinityThreadEx
  simp only [if_pos h]
  rfl

theorem keSetSystemAffinityThreadEx_below {mask : BitVec 64}
    (h : ¬ dispatchLevel ≤ l.currentIrql) :
    (keSetSystemAffinityThreadEx l mask sys.reply).1 =
      { l with
        osAffinity := if exRequest l mask = l.groupAffinityCache then l.osAffinity
          else sys.affinity (exRequest l mask)
        groupAffinityCache := exRequest l mask } := by
  unfold keSetSystemAffinityThreadEx
  simp only [if_neg h, setAffinity_reply]
  rfl

/-- A group affinity is set at any level. -/
theorem keSetSystemGroupAffinityThread_reply (sys : System) (l : ThreadLocals)
    (a : GroupAffinity) :
    (keSetSystemGroupAffinityThread l a sys.reply).1 =
      { l with
        osAffinity := if a = l.groupAffinityCache then l.osAffinity else sys.affinity a
        groupAffinityCache := a } := by
  unfold keSetSystemGroupAffinityThread
  simp only [setAffinity_reply]

/-! ## Nesting -/

/-- The levels that are saved go down from the current one. -/
def Nested (l : ThreadLocals) : Prop := (l.currentIrql :: l.saved).Pairwise (· ≥ ·)

theorem nested_init (sys : System) (priority : Int) : Nested (Thread.init sys priority).locals :=
  List.pairwise_singleton _ _

/-- Only raises and lowers change the levels. -/
theorem Nested.congr (h : Nested l) (hirql : l'.currentIrql = l.currentIrql)
    (hsaved : l'.saved = l.saved) : Nested l' := by
  unfold Nested
  rw [hirql, hsaved]
  exact h

theorem Nested.head_le (h : Nested l) {new : Nat} (hnew : l.saved.head? = some new) :
    new ≤ l.currentIrql :=
  List.rel_of_pairwise_cons h (List.mem_of_head? hnew)

theorem Nested.raise (h : Nested l) {new : Nat} {spin : Option Nat}
    (hl : raise sys l new p spin = some l') :
    Nested l' ∧ l'.currentIrql = new ∧ l.currentIrql ≤ new := by
  unfold Irql.raise at hl
  split at hl
  · next hok =>
    cases hl
    have hcons : (new :: l.currentIrql :: l.saved).Pairwise (· ≥ ·) := by
      refine List.pairwise_cons.mpr ⟨fun irql hirql => ?_, h⟩
      rcases List.mem_cons.mp hirql with rfl | hmem
      · exact hok.1
      · exact Nat.le_trans (List.rel_of_pairwise_cons h hmem) hok.1
    by_cases hd : dispatchLevel ≤ new ∧ l.currentIrql < dispatchLevel
    · rw [granted_dispatch hd]
      exact ⟨hcons, rfl, hok.1⟩
    · rw [granted_nested hd]
      exact ⟨hcons, rfl, hok.1⟩
  · cases hl

theorem Nested.lower (h : Nested l) (hl : lower sys l = some l') :
    Nested l' ∧ l'.currentIrql ≤ l.currentIrql := by
  obtain ⟨new, hnew, rfl⟩ := Option.map_eq_some_iff.mp hl
  have htail : (new :: l.saved.tail).Pairwise (· ≥ ·) := by
    obtain ⟨rest, hrest⟩ := List.head?_eq_some_iff.mp hnew
    have hsaved := (List.pairwise_cons.mp h).2
    rw [hrest] at hsaved ⊢
    exact hsaved
  by_cases hd : dispatchLevel ≤ l.currentIrql ∧ new < dispatchLevel
  · rw [keLowerIrql_dispatch hd]
    exact ⟨htail, h.head_le hnew⟩
  · rw [keLowerIrql_nested hd]
    exact ⟨htail, h.head_le hnew⟩

theorem Nested.keSetSystemAffinityThreadEx (h : Nested l) (mask : BitVec 64) :
    Nested (keSetSystemAffinityThreadEx l mask sys.reply).1 := by
  by_cases hd : dispatchLevel ≤ l.currentIrql
  · rw [keSetSystemAffinityThreadEx_dispatch hd]
    exact h.congr rfl rfl
  · rw [keSetSystemAffinityThreadEx_below hd]
    exact h.congr rfl rfl

theorem Nested.keSetSystemGroupAffinityThread (h : Nested l) (a : GroupAffinity) :
    Nested (keSetSystemGroupAffinityThread l a sys.reply).1 := by
  rw [keSetSystemGroupAffinityThread_reply]
  exact h.congr rfl rfl

theorem nested_call {s s' : Thread} {c : Call} (h : Nested s.locals)
    (hcall : call sys s c = some s') : Nested s'.locals := by
  cases c with
  | kfRaiseIrql new processor =>
    obtain ⟨l, hl, rfl⟩ := Option.map_eq_some_iff.mp hcall
    exact (h.raise hl).1
  | keAcquireSpinLock spin processor =>
    obtain ⟨l, hl, rfl⟩ := Option.map_eq_some_iff.mp hcall
    exact (h.raise hl).1
  | keLowerIrql =>
    obtain ⟨l, hl, rfl⟩ := Option.map_eq_some_iff.mp hcall
    exact (h.lower hl).1
  | keReleaseSpinLock spin =>
    obtain ⟨l, hl, rfl⟩ := Option.map_eq_some_iff.mp hcall
    exact (h.lower hl).1
  | keSetSystemAffinityThreadEx mask =>
    cases hcall
    exact h.keSetSystemAffinityThreadEx mask
  | keRevertToUserAffinityThreadEx mask =>
    cases hcall
    exact h.keSetSystemAffinityThreadEx mask
  | keSetSystemGroupAffinityThread a =>
    cases hcall
    exact h.keSetSystemGroupAffinityThread a
  | keRevertToUserGroupAffinityThread a =>
    cases hcall
    exact h.keSetSystemGroupAffinityThread a

/-! ## Calls as steps -/

variable {index : Processor → Nat} {s : State} {x : Party}

/-- A raise is steps of its thread, if the dispatch lock is free. -/
theorem exec_raise {new : Nat} (hpc : (s.locals x).pc = .idle)
    (hfree : s.dispatchLocks (index p) = none)
    (h : raise sys (s.locals x) new p none = some l') :
    ∃ as s', exec (step index) s as = some s' ∧ s'.locals = Function.update s.locals x l' := by
  unfold raise at h
  split at h
  · next hok =>
    cases h
    have hstart : step index s (.kfRaiseIrql x new p sys.reply) =
        some (s.setLocals x (kfRaiseIrql (s.locals x) new p none sys.reply)) := by
      unfold step
      exact if_pos ⟨hpc, hok.2.2⟩
    by_cases hd : dispatchLevel ≤ new ∧ (s.locals x).currentIrql < dispatchLevel
    · have hlock : ∃ s', step index (s.setLocals x (kfRaiseIrql (s.locals x) new p none sys.reply))
          (.dispatchLock x) = some s' ∧
          s'.locals = Function.update s.locals x
            (granted (kfRaiseIrql (s.locals x) new p none sys.reply)) := by
        rw [kfRaiseIrql_reply hd]
        simp [step, State.setLocals, granted, hfree, Pc.afterRaise]
      obtain ⟨s', hs', hlocals⟩ := hlock
      refine ⟨[.kfRaiseIrql x new p sys.reply, .dispatchLock x], s', ?_, hlocals⟩
      rw [exec_cons, hstart, Option.bind_some, exec_cons, hs']
      rfl
    · refine ⟨[.kfRaiseIrql x new p sys.reply], _, by rw [exec_cons, hstart]; rfl, ?_⟩
      rw [granted_nested hd, kfRaiseIrql_nested hd]
      rfl
  · cases h

/-- A lower is steps of its thread. -/
theorem exec_lower (hpc : (s.locals x).pc = .idle) (hp : (s.locals x).osAffinity p = true)
    (h : lower sys (s.locals x) = some l') :
    ∃ as s', exec (step index) s as = some s' ∧ s'.locals = Function.update s.locals x l' := by
  obtain ⟨new, -, rfl⟩ := Option.map_eq_some_iff.mp h
  unfold keLowerIrql
  split
  · next hd =>
    have hunlock : ∃ s₁, step index s (.keLowerIrql x new p sys.reply) = some s₁ ∧
        s₁.locals = Function.update s.locals x
          { s.locals x with pc := .lowering new, raisedOn := none } := by
      simp [step, State.setLocals, hpc, hd, hp]
    obtain ⟨s₁, hs₁, hlocals⟩ := hunlock
    refine ⟨[.keLowerIrql x new p sys.reply, .finishLowerIrql x sys.reply],
      s₁.setLocals x (finishLowerIrql (s₁.locals x) new sys.reply), ?_, ?_⟩
    · rw [exec_cons, hs₁, Option.bind_some, exec_cons]
      simp [step, hlocals]
    · simp [State.setLocals, hlocals]
  · next hd =>
    refine ⟨[.keLowerIrql x new p sys.reply], s.setLocals x _, ?_, rfl⟩
    simp [exec_cons, step, hpc, hd]

end Usersim.Irql
