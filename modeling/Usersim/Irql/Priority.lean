import Usersim.Irql.Sequence

/-!
# Thread priority and IRQL

`KfRaiseIrql` and `KeLowerIrql` store the new level before they call
`_set_current_thread_priority_by_irql`, which returns at once if the level it is given is the
current one. So no priority is ever set (`call_priority`): a thread at `DISPATCH_LEVEL` runs with
the priority it had before.

* `priority_follows_irql` — a sequence of calls keeps the priorities as they should be if and only
  if none of them raises the level to `DISPATCH_LEVEL`
-/

namespace Usersim.Irql

open Lib

variable {sys : System} {s s' : Thread} {l l' : ThreadLocals} {priority : Int}

def threadPriorityTimeCritical : Int := 15

def threadPriorityNormal : Int := 0

/-- At `DISPATCH_LEVEL` the priority is the highest. Below, it is the one that the thread had when
it was at `PASSIVE_LEVEL` first; what is cached then is what the cache starts with. -/
structure PriorityOk (priority : Int) (l : ThreadLocals) : Prop where
  atDispatch : dispatchLevel ≤ l.currentIrql →
    l.osPriority = threadPriorityTimeCritical ∧ l.threadPriorityCache = threadPriorityTimeCritical
  below : l.currentIrql < dispatchLevel →
    l.osPriority = priority ∧ l.threadPriorityCache = threadPriorityNormal

/-- The call leaves the priorities as they should be. -/
def PriorityCall (sys : System) (priority : Int) (s : Thread) (c : Call) : Prop :=
  ∀ s', call sys s c = some s' → PriorityOk priority s'.locals

/-- The level is raised to `DISPATCH_LEVEL`. -/
def Call.toDispatch : Call → Bool
  | .kfRaiseIrql new _ => dispatchLevel ≤ new
  | .keAcquireSpinLock .. => true
  | _ => false

/-! ## No call sets a priority -/

/-- The priorities of two thread-local states are the same. -/
structure SamePriority (l l' : ThreadLocals) : Prop where
  osPriority : l'.osPriority = l.osPriority
  cache : l'.threadPriorityCache = l.threadPriorityCache

theorem samePriority_raise {new : Nat} {p : Processor} {spin : Option Nat}
    (h : raise sys l new p spin = some l') : SamePriority l l' := by
  unfold raise at h
  split at h
  · cases h
    by_cases hd : dispatchLevel ≤ new ∧ l.currentIrql < dispatchLevel
    · rw [granted_dispatch hd]
      exact ⟨rfl, rfl⟩
    · rw [granted_nested hd]
      exact ⟨rfl, rfl⟩
  · cases h

theorem samePriority_lower (h : lower sys l = some l') : SamePriority l l' := by
  obtain ⟨new, -, rfl⟩ := Option.map_eq_some_iff.mp h
  by_cases hd : dispatchLevel ≤ l.currentIrql ∧ new < dispatchLevel
  · rw [keLowerIrql_dispatch hd]
    exact ⟨rfl, rfl⟩
  · rw [keLowerIrql_nested hd]
    exact ⟨rfl, rfl⟩

theorem samePriority_affinity (sys : System) (l : ThreadLocals) (mask : BitVec 64) :
    SamePriority l (keSetSystemAffinityThreadEx l mask sys.reply).1 := by
  by_cases hd : dispatchLevel ≤ l.currentIrql
  · rw [keSetSystemAffinityThreadEx_dispatch hd]
    exact ⟨rfl, rfl⟩
  · rw [keSetSystemAffinityThreadEx_below hd]
    exact ⟨rfl, rfl⟩

theorem samePriority_group (sys : System) (l : ThreadLocals) (a : GroupAffinity) :
    SamePriority l (keSetSystemGroupAffinityThread l a sys.reply).1 := by
  rw [keSetSystemGroupAffinityThread_reply]
  exact ⟨rfl, rfl⟩

theorem call_priority {c : Call} (h : call sys s c = some s') :
    SamePriority s.locals s'.locals := by
  cases c with
  | kfRaiseIrql | keAcquireSpinLock =>
    obtain ⟨l, hl, rfl⟩ := Option.map_eq_some_iff.mp h
    exact samePriority_raise hl
  | keLowerIrql | keReleaseSpinLock =>
    obtain ⟨l, hl, rfl⟩ := Option.map_eq_some_iff.mp h
    exact samePriority_lower hl
  | keSetSystemAffinityThreadEx mask | keRevertToUserAffinityThreadEx mask =>
    cases h
    exact samePriority_affinity sys s.locals mask
  | keSetSystemGroupAffinityThread a | keRevertToUserGroupAffinityThread a =>
    cases h
    exact samePriority_group sys s.locals a

/-! ## Sequences of calls -/

/-- A thread that has not been at `DISPATCH_LEVEL` yet. -/
structure Below (priority : Int) (l : ThreadLocals) : Prop where
  irql : l.currentIrql < dispatchLevel
  nested : Nested l
  osPriority : l.osPriority = priority
  cache : l.threadPriorityCache = threadPriorityNormal

theorem below_init (sys : System) (priority : Int) :
    Below priority (Thread.init sys priority).locals where
  irql := by show passiveLevel < dispatchLevel; decide
  nested := nested_init sys priority
  osPriority := rfl
  cache := rfl

/-- The level after a call that does not raise it to `DISPATCH_LEVEL`, and after one that does. -/
theorem Below.irql_iff (h : Below priority s.locals) {c : Call} (hc : call sys s c = some s') :
    s'.locals.currentIrql < dispatchLevel ↔ c.toDispatch = false := by
  have hlow := h.irql
  cases c with
  | kfRaiseIrql new processor =>
    obtain ⟨l, hl, rfl⟩ := Option.map_eq_some_iff.mp hc
    have hnew := (h.nested.raise hl).2.1
    simp [Call.toDispatch, hnew]
  | keAcquireSpinLock spin processor =>
    obtain ⟨l, hl, rfl⟩ := Option.map_eq_some_iff.mp hc
    have hnew := (h.nested.raise hl).2.1
    simp [Call.toDispatch, hnew]
  | keLowerIrql | keReleaseSpinLock =>
    obtain ⟨l, hl, rfl⟩ := Option.map_eq_some_iff.mp hc
    have hle := (h.nested.lower hl).2
    refine iff_of_true ?_ rfl
    show l.currentIrql < dispatchLevel
    omega
  | keSetSystemAffinityThreadEx mask | keRevertToUserAffinityThreadEx mask =>
    cases hc
    refine iff_of_true ?_ rfl
    show (keSetSystemAffinityThreadEx s.locals mask sys.reply).1.currentIrql < dispatchLevel
    rw [keSetSystemAffinityThreadEx_below (by omega)]
    exact hlow
  | keSetSystemGroupAffinityThread a | keRevertToUserGroupAffinityThread a =>
    cases hc
    refine iff_of_true ?_ rfl
    show (keSetSystemGroupAffinityThread s.locals a sys.reply).1.currentIrql < dispatchLevel
    rw [keSetSystemGroupAffinityThread_reply]
    exact hlow

theorem Below.call (h : Below priority s.locals) {c : Call} (hc : call sys s c = some s')
    (hlow : c.toDispatch = false) : Below priority s'.locals where
  irql := (h.irql_iff hc).mpr hlow
  nested := nested_call h.nested hc
  osPriority := (call_priority hc).osPriority.trans h.osPriority
  cache := (call_priority hc).cache.trans h.cache

/-- The priorities are as they should be after a call just when it stays below. -/
theorem Below.priorityOk_iff (h : Below priority s.locals) {c : Call}
    (hc : Irql.call sys s c = some s') :
    PriorityOk priority s'.locals ↔ c.toDispatch = false := by
  have hcache := (call_priority hc).cache.trans h.cache
  constructor
  · intro hok
    by_contra hup
    have hhigh : dispatchLevel ≤ s'.locals.currentIrql := by
      have hnot := (h.irql_iff hc).not.mpr hup
      omega
    -- the cache was never written
    have hcritical := (hok.atDispatch hhigh).2
    rw [hcache] at hcritical
    exact absurd hcritical (by decide)
  · intro hlow
    have hbelow := h.call hc hlow
    refine ⟨fun hhigh => ?_, fun _ => ⟨hbelow.osPriority, hbelow.cache⟩⟩
    have hirql := hbelow.irql
    omega

theorem Below.priorityCall_iff (h : Below priority s.locals) {c : Call}
    (hc : Irql.call sys s c = some s') : PriorityCall sys priority s c ↔ c.toDispatch = false := by
  constructor
  · exact fun hok => (h.priorityOk_iff hc).mp (hok s' hc)
  · exact fun hlow s₂ hs₂ => (h.priorityOk_iff hs₂).mpr hlow

/--
For every sequence of calls of one thread: every call leaves the priorities as they should be if and
only if none of them raises the level to `DISPATCH_LEVEL`.
-/
theorem priority_follows_irql (sys : System) (priority : Int) (calls : List Call) (s : Thread)
    (hrun : exec (call sys) (Thread.init sys priority) calls = some s) :
    Guarded (call sys) (PriorityCall sys priority) (Thread.init sys priority) calls ↔
      ∀ c ∈ calls, c.toDispatch = false := by
  have hguard : Guarded (call sys) (PriorityCall sys priority) (Thread.init sys priority) calls ↔
      Guarded (call sys) (fun _ c => c.toDispatch = false) (Thread.init sys priority) calls :=
    guarded_iff_of_exec (P := fun s => Below priority s.locals)
      (fun _ _ _ h hc => h.priorityCall_iff hc) (fun _ _ _ h hlow hc => h.call hc hlow)
      (below_init sys priority) hrun
  rw [hguard, guarded_mem_iff hrun]

/-- A process that may run on one processor. -/
def oneProcessor : System := ⟨1, by decide⟩

def raiseToApc (p : Processor) : List Call := [.kfRaiseIrql 1 p, .keLowerIrql]

theorem priority_follows_irql_apc :
    Guarded (call oneProcessor) (PriorityCall oneProcessor 0) (Thread.init oneProcessor 0)
      (raiseToApc (processor 0)) :=
  (priority_follows_irql oneProcessor 0 (raiseToApc (processor 0)) _ rfl).mpr (by decide)

def raiseToDispatch (p : Processor) : List Call := [.kfRaiseIrql dispatchLevel p]

/-- At `DISPATCH_LEVEL` the priority and its cache are those of a normal thread. -/
theorem priority_unchanged_at_dispatch :
    (∃ s, exec (call oneProcessor) (Thread.init oneProcessor 0)
        (raiseToDispatch (processor 0)) = some s ∧
      s.locals.currentIrql = dispatchLevel ∧ s.locals.osPriority = threadPriorityNormal ∧
      s.locals.threadPriorityCache = threadPriorityNormal) ∧
    ¬ Guarded (call oneProcessor) (PriorityCall oneProcessor 0) (Thread.init oneProcessor 0)
      (raiseToDispatch (processor 0)) := by
  refine ⟨⟨_, rfl, rfl, rfl, rfl⟩, fun h => ?_⟩
  have hcritical := (h.1 _ rfl).atDispatch (by decide)
  exact absurd hcritical.1 (by decide)

end Usersim.Irql
