import Usersim.Irql.Sequence

/-!
# Affinity requests at dispatch level

A request made at `DISPATCH_LEVEL` should wait until the level drops. `KeSetSystemAffinityThreadEx`
puts it into the cache and into the saved affinity; the lower then compares the two, finds them
equal and skips the system call, so the thread stays pinned. `KeSetSystemGroupAffinityThread` does
not look at the level: it moves the thread at once, and the lower takes the request back.

* `affinity_deferred` — a sequence of calls keeps the affinities as they should be if and only if
  every call is `Harmless`
-/

namespace Usersim.Irql

open Lib

variable {sys : System} {s s' : Thread} {p : Processor} {a : GroupAffinity}

/-! ## The specification -/

/-- At `DISPATCH_LEVEL` the thread is pinned to the processor of the outermost raise. Below, it has
the affinity it asked for last, and so has the cache. -/
structure AffinityOk (sys : System) (s : Thread) : Prop where
  atDispatch : dispatchLevel ≤ s.locals.currentIrql →
    ∃ p, s.locals.raisedOn = some p ∧ Pinned s.locals p
  below : s.locals.currentIrql < dispatchLevel →
    s.locals.osAffinity = sys.affinity s.requested ∧ s.locals.groupAffinityCache = s.requested

/-- The call leaves the affinities as they should be. -/
def AffinityCall (sys : System) (s : Thread) (c : Call) : Prop :=
  ∀ s', call sys s c = some s' → AffinityOk sys s'

/-! ## The condition -/

/-- The affinity stands for just the processor of the outermost raise. -/
def StaysPinned (sys : System) (l : ThreadLocals) (a : GroupAffinity) : Prop :=
  ∀ p, l.raisedOn = some p → ∀ q, sys.affinity a q = true ↔ q = p

/-- A request for a group affinity. -/
def HarmlessGroup (sys : System) (s : Thread) (a : GroupAffinity) : Prop :=
  dispatchLevel ≤ s.locals.currentIrql →
    a = s.locals.groupAffinityCache ∨ StaysPinned sys s.locals a

/-- A lower from `DISPATCH_LEVEL`: the last request is the saved one, and if the cache holds it as
well, it is the processor that the thread is pinned to. -/
def HarmlessLower (sys : System) (s : Thread) : Prop :=
  ∀ new ∈ s.locals.saved.head?, dispatchLevel ≤ s.locals.currentIrql ∧ new < dispatchLevel →
    s.requested = s.locals.groupBeforeRaiseIrql ∧
      (s.locals.groupBeforeRaiseIrql = s.locals.groupAffinityCache →
        StaysPinned sys s.locals s.locals.groupBeforeRaiseIrql)

def Harmless (sys : System) (s : Thread) : Call → Prop
  | .keSetSystemGroupAffinityThread a | .keRevertToUserGroupAffinityThread a =>
    HarmlessGroup sys s a
  | .keLowerIrql | .keReleaseSpinLock _ => HarmlessLower sys s
  | .kfRaiseIrql .. | .keAcquireSpinLock .. | .keSetSystemAffinityThreadEx _
  | .keRevertToUserAffinityThreadEx _ => True

/-! ## One call -/

theorem affinityOk_init (sys : System) (priority : Int) :
    AffinityOk sys (Thread.init sys priority) where
  atDispatch := fun h => absurd h (show ¬ dispatchLevel ≤ passiveLevel by decide)
  below := fun _ => ⟨rfl, rfl⟩

theorem affinity_single (sys : System) (p q : Processor) :
    sys.affinity (.single p) q = true ↔ q = p := by
  unfold System.affinity
  rw [if_neg (single_mask_ne_zero p)]
  exact single_contains p q

theorem AffinityOk.raise (h : AffinityOk sys s) {new : Nat} {spin : Option Nat} {l : ThreadLocals}
    (hl : raise sys s.locals new p spin = some l) : AffinityOk sys { s with locals := l } := by
  unfold Irql.raise at hl
  split at hl
  · next hok =>
    cases hl
    obtain ⟨hup, -, -⟩ := hok
    by_cases hd : dispatchLevel ≤ new ∧ s.locals.currentIrql < dispatchLevel
    · rw [granted_dispatch hd]
      obtain ⟨hos, hcache⟩ := h.below hd.2
      refine ⟨fun _ => ⟨p, rfl, fun q => ?_⟩, fun hlow => ?_⟩
      · -- the shortcut is right here: below, the cache is in step with the system
        show (if _ then _ else _ : Processor → Bool) q = true ↔ q = p
        split
        · next hsame =>
          rw [hos, ← hcache, ← hsame]
          exact affinity_single sys p q
        · exact affinity_single sys p q
      · have hlow' : new < dispatchLevel := hlow
        omega
    · rw [granted_nested hd]
      refine ⟨fun hhigh => ?_, fun hlow => ?_⟩
      · have hhigh' : dispatchLevel ≤ new := hhigh
        exact h.atDispatch (by omega)
      · have hlow' : new < dispatchLevel := hlow
        exact h.below (by omega)
  · cases hl

/-- A lower from `DISPATCH_LEVEL` is right just when it is harmless. -/
theorem affinityOk_lower_dispatch (h : AffinityOk sys s) {new : Nat}
    (hd : dispatchLevel ≤ s.locals.currentIrql ∧ new < dispatchLevel) :
    AffinityOk sys { s with locals := keLowerIrql sys s.locals new } ↔
      s.requested = s.locals.groupBeforeRaiseIrql ∧
        (s.locals.groupBeforeRaiseIrql = s.locals.groupAffinityCache →
          StaysPinned sys s.locals s.locals.groupBeforeRaiseIrql) := by
  rw [keLowerIrql_dispatch hd]
  obtain ⟨p, hp, hpinned⟩ := h.atDispatch hd.1
  constructor
  · intro hok
    obtain ⟨hos, hcache⟩ := hok.below hd.2
    have hreq : s.requested = s.locals.groupBeforeRaiseIrql := hcache.symm
    refine ⟨hreq, fun hsame p' hp' q => ?_⟩
    obtain rfl : p = p' := Option.some.inj (hp.symm.trans hp')
    have hos' : s.locals.osAffinity = sys.affinity s.requested := by
      rw [← hos]
      exact (if_pos hsame).symm
    rw [← hreq, ← hos']
    exact hpinned q
  · rintro ⟨hreq, honly⟩
    refine ⟨fun hhigh => ?_, fun _ => ⟨?_, hreq.symm⟩⟩
    · have hhigh' : dispatchLevel ≤ new := hhigh
      omega
    · show (if _ then _ else _ : Processor → Bool) = sys.affinity s.requested
      split
      · next hsame =>
        -- no system call: the thread stays on the processor of the raise
        funext q
        rw [hreq, Bool.eq_iff_iff]
        exact (hpinned q).trans (honly hsame p hp q).symm
      · rw [hreq]

theorem affinityOk_lower_iff (h : AffinityOk sys s) (hn : Nested s.locals) :
    (∀ l, lower sys s.locals = some l → AffinityOk sys { s with locals := l }) ↔
      HarmlessLower sys s := by
  unfold lower HarmlessLower
  cases hsaved : s.locals.saved.head? with
  | none => simp
  | some new =>
    simp only [Option.map_some, Option.some.injEq, forall_eq', Option.mem_def]
    have hle := hn.head_le hsaved
    by_cases hd : dispatchLevel ≤ s.locals.currentIrql ∧ new < dispatchLevel
    · rw [affinityOk_lower_dispatch h hd]
      exact ⟨fun hok _ => hok, fun hok => hok hd⟩
    · rw [keLowerIrql_nested hd]
      refine iff_of_true ⟨fun hhigh => ?_, fun hlow => ?_⟩ fun hd' => absurd hd' hd
      · have hhigh' : dispatchLevel ≤ new := hhigh
        exact h.atDispatch (by omega)
      · have hlow' : new < dispatchLevel := hlow
        exact h.below (by omega)

/-- Below `DISPATCH_LEVEL` the cache is in step with the system, so the shortcut is right. -/
theorem AffinityOk.setBelow (h : AffinityOk sys s) (hlow : s.locals.currentIrql < dispatchLevel)
    (a : GroupAffinity) :
    (if a = s.locals.groupAffinityCache then s.locals.osAffinity else sys.affinity a) =
      sys.affinity a := by
  obtain ⟨hos, hcache⟩ := h.below hlow
  split
  · next hsame => rw [hos, ← hcache, ← hsame]
  · rfl

theorem AffinityOk.keSetSystemAffinityThreadEx (h : AffinityOk sys s) (mask : BitVec 64) :
    AffinityOk sys
      { locals := (keSetSystemAffinityThreadEx s.locals mask sys.reply).1
        requested := exRequest s.locals mask } := by
  by_cases hd : dispatchLevel ≤ s.locals.currentIrql
  · rw [keSetSystemAffinityThreadEx_dispatch hd]
    refine ⟨fun _ => h.atDispatch hd, fun hlow => ?_⟩
    have hlow' : s.locals.currentIrql < dispatchLevel := hlow
    omega
  · rw [keSetSystemAffinityThreadEx_below hd]
    have hlow : s.locals.currentIrql < dispatchLevel := by omega
    exact ⟨fun hhigh => absurd hhigh hd, fun _ => ⟨h.setBelow hlow _, rfl⟩⟩

/-- A request for a group affinity is right just when it is harmless. -/
theorem affinityOk_group_iff (h : AffinityOk sys s) (a : GroupAffinity) :
    AffinityOk sys
        { locals := (keSetSystemGroupAffinityThread s.locals a sys.reply).1, requested := a } ↔
      HarmlessGroup sys s a := by
  rw [keSetSystemGroupAffinityThread_reply]
  by_cases hd : dispatchLevel ≤ s.locals.currentIrql
  · obtain ⟨p, hp, hpinned⟩ := h.atDispatch hd
    constructor
    · intro hok _
      by_cases hsame : a = s.locals.groupAffinityCache
      · exact .inl hsame
      · refine .inr fun p' hp' q => ?_
        obtain ⟨p₂, hp₂, hpinned₂⟩ := hok.atDispatch hd
        obtain rfl : p' = p₂ := Option.some.inj (hp'.symm.trans hp₂)
        have hq := hpinned₂ q
        simp only [if_neg hsame] at hq
        exact hq
    · intro hharm
      refine ⟨fun _ => ⟨p, hp, fun q => ?_⟩, fun hlow => ?_⟩
      · show (if _ then _ else _ : Processor → Bool) q = true ↔ q = p
        split
        · exact hpinned q
        · next hsame => exact (hharm hd).resolve_left hsame p hp q
      · have hlow' : s.locals.currentIrql < dispatchLevel := hlow
        omega
  · have hlow : s.locals.currentIrql < dispatchLevel := by omega
    refine iff_of_true ⟨fun hhigh => absurd hhigh hd, fun _ => ⟨h.setBelow hlow a, rfl⟩⟩ ?_
    exact fun hhigh => absurd hhigh hd

/-- A call leaves the affinities as they should be just when it is harmless. -/
theorem affinityCall_iff (h : AffinityOk sys s) (hn : Nested s.locals) (c : Call) :
    AffinityCall sys s c ↔ Harmless sys s c := by
  unfold AffinityCall
  cases c with
  | kfRaiseIrql new processor =>
    refine iff_of_true (fun s' hs' => ?_) trivial
    obtain ⟨l, hl, rfl⟩ := Option.map_eq_some_iff.mp hs'
    exact h.raise hl
  | keAcquireSpinLock spin processor =>
    refine iff_of_true (fun s' hs' => ?_) trivial
    obtain ⟨l, hl, rfl⟩ := Option.map_eq_some_iff.mp hs'
    exact h.raise hl
  | keLowerIrql | keReleaseSpinLock =>
    refine Iff.trans ⟨fun hok l hl => ?_, fun hok s' hs' => ?_⟩ (affinityOk_lower_iff h hn)
    · exact hok _ (Option.map_eq_some_iff.mpr ⟨l, hl, rfl⟩)
    · obtain ⟨l, hl, rfl⟩ := Option.map_eq_some_iff.mp hs'
      exact hok l hl
  | keSetSystemAffinityThreadEx mask | keRevertToUserAffinityThreadEx mask =>
    refine iff_of_true (fun s' hs' => ?_) trivial
    cases hs'
    exact h.keSetSystemAffinityThreadEx mask
  | keSetSystemGroupAffinityThread a | keRevertToUserGroupAffinityThread a =>
    refine Iff.trans ⟨fun hok => hok _ rfl, fun hok s' hs' => ?_⟩ (affinityOk_group_iff h a)
    cases hs'
    exact hok

/-! ## Sequences of calls -/

/--
For every sequence of calls of one thread: every call leaves the affinities as they should be if
and only if every call is harmless.
-/
theorem affinity_deferred (sys : System) (priority : Int) (calls : List Call) :
    Guarded (call sys) (AffinityCall sys) (Thread.init sys priority) calls ↔
      Guarded (call sys) (Harmless sys) (Thread.init sys priority) calls := by
  refine guarded_iff_of_invariant (P := fun s => AffinityOk sys s ∧ Nested s.locals) ?_ ?_
    ⟨affinityOk_init sys priority, nested_init sys priority⟩
  · exact fun s c hs => affinityCall_iff hs.1 hs.2 c
  · intro s c s' hs hc hcall
    exact ⟨(affinityCall_iff hs.1 hs.2 c).mpr hc s' hcall, nested_call hs.2 hcall⟩

/-- A process that may run on two processors. -/
def twoProcessors : System := ⟨3, by decide⟩

/-- At `DISPATCH_LEVEL` on a processor, the thread asks for processor 1. -/
def askAtDispatch (p : Processor) : List Call :=
  [.kfRaiseIrql dispatchLevel p, .keSetSystemAffinityThreadEx 2, .keLowerIrql]

/-- The request is never passed on: below `DISPATCH_LEVEL` the thread is on processor 0 still,
although processor 1 was asked for and the cache says so. -/
theorem request_at_dispatch_lost :
    (∃ s, exec (call twoProcessors) (Thread.init twoProcessors 0)
        (askAtDispatch (processor 0)) = some s ∧
      s.locals.currentIrql = passiveLevel ∧ s.requested = .single (processor 1) ∧
      s.locals.groupAffinityCache = .single (processor 1) ∧
      s.locals.osAffinity (processor 0) = true ∧ s.locals.osAffinity (processor 1) = false) ∧
    ¬ Guarded (call twoProcessors) (AffinityCall twoProcessors) (Thread.init twoProcessors 0)
      (askAtDispatch (processor 0)) := by
  refine ⟨⟨_, rfl, rfl, by decide, by decide, by decide, by decide⟩, fun h => ?_⟩
  have hlast := ((h.2 _ rfl).2 _ rfl).1 _ rfl
  have hos := (hlast.below (by decide)).1
  have hone := congrFun hos (processor 1)
  exact absurd hone (by decide)

end Usersim.Irql
