import Mathlib.Data.List.Count
import Mathlib.Data.List.Perm.Basic
import Usersim.Event.Basic

/-!
# What an event means

* `State.total` counts the calls with a result from their critical section on; for a
  synchronization event every signal that was put in is consumed once or still there
* waits on a notification event leave it alone
* nobody sleeps on a signaled event unless a `KeSetEvent` that has stored TRUE is yet to wake the
  sleepers
* every call returns at the IRQL it was made at
-/

namespace Usersim.Event

open Lib

variable {s s' : State} {a : Action} {t u : Tid}

/-! ## The steps, one by one -/

/-- The branches of `step` that are enabled. -/
inductive Step (s : State) : Action → State → Prop
  | setIrql {t : Tid} {irql : Nat} (hpc : s.pc t = .idle) :
    Step s (.setIrql t irql) { s with irql := Function.update s.irql t irql }
  | call {t : Tid} {call : Call} (hpc : s.pc t = .idle) :
    Step s (.call t call)
      { s.raise t call with callerIrql := Function.update s.callerIrql t (s.irql t) }
  | lock {t : Tid} {call : Call} {old : Nat} (hpc : s.pc t = .raised call old)
      (hfree : s.owner = none) :
    Step s (.lock t) { s.setPc t (.locked call old) with owner := some t }
  | read {t : Tid} {call : Call} {old : Nat} (hpc : s.pc t = .locked call old) :
    Step s (.read t) (s.setPc t (.read call s.event.signaled old))
  | write {t : Tid} {call : Call} {seen : Bool} {old : Nat} (hpc : s.pc t = .read call seen old) :
    Step s (.write t)
      { s.setPc t (.written (criticalSection s.event seen call).2 old) with
        event := { s.event with signaled := (criticalSection s.event seen call).1 }
        decided := (criticalSection s.event seen call).2.outcome.toList.map (t, ·) ++ s.decided }
  | unlock {t : Tid} {after : After} {old : Nat} (hpc : s.pc t = .written after old) :
    Step s (.unlock t) { s.setPc t (.unlocked after old) with owner := none }
  | lower {t : Tid} {after : After} {old : Nat} (hpc : s.pc t = .unlocked after old) :
    Step s (.lower t) ({ s with irql := Function.update s.irql t old }.resume t after)
  | wakeByAddressAll {t : Tid} {previous : Bool} (hpc : s.pc t = .waking previous) :
    Step s (.wakeByAddressAll t) (s.wakeSleepers.returnWith t (.previousState previous))
  | sleep {t : Tid} (hpc : s.pc t = .comparing s.event.signaled) :
    Step s (.waitOnAddress t) (s.setPc t .asleep)
  | differs {t : Tid} {oldState : Bool} (hpc : s.pc t = .comparing oldState) :
    Step s (.waitOnAddress t) (s.setPc t .woken)
  | wakeUp {t : Tid} (hpc : s.pc t = .asleep) : Step s (.wakeUp t) (s.setPc t .woken)
  | timeOut {t : Tid} (hpc : s.pc t = .asleep) : Step s (.timeOut t) (s.returnWith t .statusTimeout)
  | expired {t : Tid} (hpc : s.pc t = .woken) :
    Step s (.queryTime t true) (s.returnWith t .statusTimeout)
  | again {t : Tid} (hpc : s.pc t = .woken) :
    Step s (.queryTime t false) (s.raise t .keWaitForSingleObject)

theorem step_cases (h : step s a = some s') : Step s a s' := by
  cases a with
  | setIrql t irql =>
    simp only [step, Option.ite_none_right_eq_some, Option.some.injEq] at h
    obtain ⟨hpc, rfl⟩ := h
    exact .setIrql hpc
  | call t call =>
    simp only [step, Option.ite_none_right_eq_some, Option.some.injEq] at h
    obtain ⟨hpc, rfl⟩ := h
    exact .call hpc.1
  | lock t =>
    simp only [step] at h
    split at h
    · rename_i call old hpc
      simp only [Option.ite_none_right_eq_some, Option.some.injEq] at h
      obtain ⟨hfree, rfl⟩ := h
      exact .lock hpc hfree
    · cases h
  | read t =>
    simp only [step] at h
    split at h <;> cases h
    exact .read ‹_›
  | write t =>
    simp only [step] at h
    split at h <;> cases h
    exact .write ‹_›
  | unlock t =>
    simp only [step] at h
    split at h <;> cases h
    exact .unlock ‹_›
  | lower t =>
    simp only [step] at h
    split at h <;> cases h
    exact .lower ‹_›
  | wakeByAddressAll t =>
    simp only [step] at h
    split at h <;> cases h
    exact .wakeByAddressAll ‹_›
  | waitOnAddress t =>
    simp only [step] at h
    split at h
    · rename_i oldState hpc
      by_cases heq : s.event.signaled = oldState
      · subst heq
        simp only [if_true] at h
        cases h
        exact .sleep hpc
      · rw [if_neg heq] at h
        cases h
        exact .differs hpc
    · cases h
  | wakeUp t =>
    simp only [step, Option.ite_none_right_eq_some, Option.some.injEq] at h
    obtain ⟨hpc, rfl⟩ := h
    exact .wakeUp hpc
  | timeOut t =>
    simp only [step, Option.ite_none_right_eq_some, Option.some.injEq] at h
    obtain ⟨hpc, rfl⟩ := h
    exact .timeOut hpc
  | queryTime t expired =>
    simp only [step, Option.ite_none_right_eq_some] at h
    obtain ⟨hpc, h⟩ := h
    cases expired with
    | true =>
      cases h
      exact .expired hpc
    | false =>
      cases h
      exact .again hpc

/-! ## What each thread relies on -/

/-- The value that a wait hands to `WaitOnAddress` was read when the event was not signaled. -/
def After.Captured : After → Prop
  | .waitOnAddress oldState => oldState = false
  | .returnWith _ | .wakeByAddressAll _ => True

/-- What thread `t` relies on at each point of its calls. -/
def Pc.Ok (s : State) (t : Tid) : Pc → Prop
  | .idle => True
  | .raised _ old => old = s.callerIrql t
  | .locked _ old => s.owner = some t ∧ old = s.callerIrql t
  | .read _ seen old => s.owner = some t ∧ old = s.callerIrql t ∧ seen = s.event.signaled
  | .written after old => s.owner = some t ∧ old = s.callerIrql t ∧ after.Captured
  | .unlocked after old => old = s.callerIrql t ∧ after.Captured
  | .comparing oldState => s.irql t = s.callerIrql t ∧ oldState = false
  | .waking _ | .asleep | .woken => s.irql t = s.callerIrql t

def Local (s : State) : Prop := ∀ t, (s.pc t).Ok s t

theorem Local.of_pc (hl : Local s) {pc : Pc} (hpc : s.pc t = pc) : pc.Ok s t := by
  rw [← hpc]
  exact hl t

/-- A thread that is past `lock` and not past `unlock` owns the spin lock. -/
def Pc.locks : Pc → Bool
  | .locked .. | .read .. | .written .. => true
  | _ => false

theorem Local.owner (hl : Local s) (h : (s.pc t).locks = true) : s.owner = some t := by
  cases hpc : s.pc t with
  | locked call old => exact (hl.of_pc hpc).1
  | read call seen old => exact (hl.of_pc hpc).1
  | written after old => exact (hl.of_pc hpc).1
  | _ =>
    rw [hpc] at h
    cases h

/-- Another thread's point is kept unless the spin lock is taken from it. -/
theorem Pc.Ok.frame {pc : Pc} (h : pc.Ok s u) (hirql : s'.irql u = s.irql u)
    (hcaller : s'.callerIrql u = s.callerIrql u)
    (hlock : pc.locks = true → s'.owner = s.owner ∧ s'.event.signaled = s.event.signaled) :
    pc.Ok s' u := by
  cases pc with
  | locked call old =>
    obtain ⟨ho, -⟩ := hlock rfl
    simp only [Pc.Ok] at h ⊢
    rw [ho, hcaller]
    exact h
  | read call seen old =>
    obtain ⟨ho, hsig⟩ := hlock rfl
    simp only [Pc.Ok] at h ⊢
    rw [ho, hcaller, hsig]
    exact h
  | written after old =>
    obtain ⟨ho, -⟩ := hlock rfl
    simp only [Pc.Ok] at h ⊢
    rw [ho, hcaller]
    exact h
  | idle => trivial
  | _ =>
    simp only [Pc.Ok, hirql, hcaller] at h ⊢
    exact h

/-- Only the thread that moves is concerned by a step that leaves the spin lock and `signaled`
to their owner. -/
theorem Local.move (hl : Local s) (hpc : ∀ u, u ≠ t → s'.pc u = s.pc u)
    (hirql : ∀ u, u ≠ t → s'.irql u = s.irql u)
    (hcaller : ∀ u, u ≠ t → s'.callerIrql u = s.callerIrql u)
    (hlock : ∀ u, u ≠ t → s.owner = some u →
      s'.owner = s.owner ∧ s'.event.signaled = s.event.signaled)
    (ht : (s'.pc t).Ok s' t) : Local s' := by
  intro u
  by_cases hut : u = t
  · subst hut
    exact ht
  · rw [hpc u hut]
    exact (hl u).frame (hirql u hut) (hcaller u hut) (fun h => hlock u hut (hl.owner h))

theorem criticalSection_captured (event : Kevent) (call : Call) :
    (criticalSection event event.signaled call).2.Captured := by
  cases call with
  | keSetEvent => trivial
  | keClearEvent => trivial
  | keWaitForSingleObject =>
    unfold criticalSection
    cases hs : event.signaled with
    | true => simp [After.Captured]
    | false => simp [After.Captured]

theorem Local.wakeSleepers (hl : Local s) : Local s.wakeSleepers := by
  intro u
  have hu := hl u
  simp only [State.wakeSleepers]
  split
  · rename_i hpc
    rw [hpc] at hu
    exact hu
  · exact hu.frame rfl rfl (fun _ => ⟨rfl, rfl⟩)

theorem Local.returnWith (hl : Local s) (outcome : Outcome) : Local (s.returnWith t outcome) := by
  refine hl.move (t := t) ?_ (fun _ _ => rfl) (fun _ _ => rfl) (fun _ _ _ => ⟨rfl, rfl⟩) ?_
  · intro u hut
    exact Function.update_of_ne hut ..
  · simp [State.returnWith, Pc.Ok]

theorem Local.setPc (hl : Local s) {pc : Pc} (h : pc.Ok s t) : Local (s.setPc t pc) := by
  refine hl.move (t := t) ?_ (fun _ _ => rfl) (fun _ _ => rfl) (fun _ _ _ => ⟨rfl, rfl⟩) ?_
  · intro u hut
    exact Function.update_of_ne hut ..
  · have hpc : (s.setPc t pc).pc t = pc := Function.update_self ..
    rw [hpc]
    exact h.frame rfl rfl (fun _ => ⟨rfl, rfl⟩)

theorem Local.raise (hl : Local s) (call : Call) (caller : Tid → Nat)
    (ht : caller t = s.irql t) (hu : ∀ u, u ≠ t → caller u = s.callerIrql u) :
    Local { s.raise t call with callerIrql := caller } := by
  refine hl.move (t := t) ?_ ?_ hu (fun _ _ _ => ⟨rfl, rfl⟩) ?_
  · intro u hut
    exact Function.update_of_ne hut ..
  · intro u hut
    exact Function.update_of_ne hut ..
  · have hpc : (s.raise t call).pc t = .raised call (s.irql t) := Function.update_self ..
    rw [hpc]
    exact ht.symm

theorem local_step (hl : Local s) (h : Step s a s') : Local s' := by
  cases h with
  | @setIrql t irql hpc =>
    refine hl.move (t := t) (fun _ _ => rfl) ?_ (fun _ _ => rfl) (fun _ _ _ => ⟨rfl, rfl⟩) ?_
    · intro u hut
      exact Function.update_of_ne hut ..
    · rw [hpc]
      trivial
  | @call t call hpc =>
    exact hl.raise call _ (Function.update_self ..) (fun u hut => Function.update_of_ne hut ..)
  | @lock t call old hpc hfree =>
    have ht := hl.of_pc hpc
    refine hl.move (t := t) ?_ (fun _ _ => rfl) (fun _ _ => rfl) ?_ ?_
    · intro u hut
      exact Function.update_of_ne hut ..
    · intro u _ hu
      rw [hfree] at hu
      cases hu
    · simp only [State.setPc, Function.update_self]
      exact ⟨rfl, ht⟩
  | @read t call old hpc =>
    have ht := hl.of_pc hpc
    exact hl.setPc ⟨ht.1, ht.2, rfl⟩
  | @write t call seen old hpc =>
    have ht := hl.of_pc hpc
    obtain ⟨howner, hold, rfl⟩ := ht
    refine hl.move (t := t) ?_ (fun _ _ => rfl) (fun _ _ => rfl) ?_ ?_
    · intro u hut
      exact Function.update_of_ne hut ..
    · intro u hut hu
      rw [howner] at hu
      exact absurd (Option.some.inj hu).symm hut
    · simp only [State.setPc, Function.update_self]
      exact ⟨howner, hold, criticalSection_captured _ _⟩
  | @unlock t after old hpc =>
    have ht := hl.of_pc hpc
    refine hl.move (t := t) ?_ (fun _ _ => rfl) (fun _ _ => rfl) ?_ ?_
    · intro u hut
      exact Function.update_of_ne hut ..
    · intro u hut hu
      rw [ht.1] at hu
      exact absurd (Option.some.inj hu).symm hut
    · simp only [State.setPc, Function.update_self]
      exact ⟨ht.2.1, ht.2.2⟩
  | @lower t after old hpc =>
    have ht := hl.of_pc hpc
    obtain ⟨hold, hcaptured⟩ := ht
    have hlow : Local { s with irql := Function.update s.irql t old } := by
      refine hl.move (t := t) (fun _ _ => rfl) ?_ (fun _ _ => rfl) (fun _ _ _ => ⟨rfl, rfl⟩) ?_
      · intro u hut
        exact Function.update_of_ne hut ..
      · rw [hpc]
        exact ⟨hold, hcaptured⟩
    cases after with
    | returnWith outcome => exact hlow.returnWith outcome
    | wakeByAddressAll previous =>
      refine hlow.setPc ?_
      simp only [Pc.Ok, Function.update_self]
      exact hold
    | waitOnAddress oldState =>
      refine hlow.setPc ?_
      simp only [Pc.Ok, Function.update_self]
      exact ⟨hold, hcaptured⟩
  | wakeByAddressAll hpc => exact hl.wakeSleepers.returnWith _
  | @sleep t hpc =>
    have ht := hl.of_pc hpc
    exact hl.setPc ht.1
  | @differs t oldState hpc =>
    have ht := hl.of_pc hpc
    exact hl.setPc ht.1
  | @wakeUp t hpc =>
    have ht := hl.of_pc hpc
    exact hl.setPc ht
  | timeOut hpc => exact hl.returnWith _
  | expired hpc => exact hl.returnWith _
  | @again t hpc =>
    have ht := hl.of_pc hpc
    exact hl.raise .keWaitForSingleObject s.callerIrql ht.symm (fun _ _ => rfl)

/-! ## Results that are fixed and not returned yet -/

/-- The result that the critical section of the thread's call has fixed. -/
def Pc.outcome : Pc → Option Outcome
  | .written after _ | .unlocked after _ => after.outcome
  | .waking previous => some (.previousState previous)
  | _ => none

structure Decided (s : State) : Prop where
  nodup : s.decided.Nodup
  mem : ∀ t outcome, (t, outcome) ∈ s.decided ↔ (s.pc t).outcome = some outcome

theorem Decided.same (hd : Decided s) (hdec : s'.decided = s.decided)
    (hpc : ∀ u, (s'.pc u).outcome = (s.pc u).outcome) : Decided s' where
  nodup := by
    rw [hdec]
    exact hd.nodup
  mem := by
    intro u outcome
    rw [hdec, hpc u]
    exact hd.mem u outcome

/-- A step of `t` between two points with the same result. -/
theorem Decided.move (hd : Decided s) {pc : Pc} (hdec : s'.decided = s.decided)
    (hpc : s'.pc = Function.update s.pc t pc) (hout : pc.outcome = (s.pc t).outcome) :
    Decided s' := by
  refine hd.same hdec ?_
  intro u
  rw [hpc]
  by_cases hut : u = t
  · subst hut
    rw [Function.update_self]
    exact hout
  · rw [Function.update_of_ne hut]

theorem Decided.write (hd : Decided s) {after : After} {old : Nat} (hnone : (s.pc t).outcome = none)
    (hdec : s'.decided = after.outcome.toList.map (t, ·) ++ s.decided)
    (hpc : s'.pc = Function.update s.pc t (.written after old)) : Decided s' := by
  have hnew : ∀ outcome, (t, outcome) ∉ s.decided := by
    intro outcome hmem
    rw [hd.mem, hnone] at hmem
    cases hmem
  constructor
  · rw [hdec]
    cases after.outcome with
    | none => simpa using hd.nodup
    | some outcome => simpa using ⟨hnew outcome, hd.nodup⟩
  · intro u outcome
    rw [hdec, hpc]
    by_cases hut : u = t
    · subst hut
      rw [Function.update_self]
      simp only [Pc.outcome, List.mem_append, hnew, or_false]
      cases after.outcome with
      | none => simp
      | some o => simp [eq_comm]
    · rw [Function.update_of_ne hut, ← hd.mem u outcome]
      cases after.outcome with
      | none => simp
      | some o => simp [hut]

theorem Decided.returnWith (hd : Decided s) {outcome : Outcome}
    (hout : ∀ o, (s.pc t).outcome = some o → o = outcome) :
    Decided (s.returnWith t outcome) where
  nodup := hd.nodup.erase _
  mem := by
    intro u o
    simp only [State.returnWith, hd.nodup.mem_erase_iff]
    by_cases hut : u = t
    · subst hut
      rw [Function.update_self]
      simp only [Pc.outcome]
      constructor
      · rintro ⟨hne, hmem⟩
        rw [hd.mem] at hmem
        exact absurd (by rw [hout o hmem]) hne
      · intro h
        cases h
    · rw [Function.update_of_ne hut, hd.mem u o]
      simp [hut]

theorem Decided.wakeSleepers (hd : Decided s) : Decided s.wakeSleepers := by
  refine hd.same rfl ?_
  intro u
  simp only [State.wakeSleepers]
  split
  · rename_i hpc
    rw [hpc]
    rfl
  · rfl

theorem decided_step (hd : Decided s) (h : Step s a s') : Decided s' := by
  cases h with
  | setIrql hpc => exact hd.same rfl (fun _ => rfl)
  | call hpc => exact hd.move rfl rfl (by rw [hpc]; rfl)
  | lock hpc hfree => exact hd.move rfl rfl (by rw [hpc]; rfl)
  | read hpc => exact hd.move rfl rfl (by rw [hpc]; rfl)
  | write hpc => exact hd.write (by rw [hpc]; rfl) rfl rfl
  | unlock hpc => exact hd.move rfl rfl (by rw [hpc]; rfl)
  | @lower t after old hpc =>
    have hlow : Decided { s with irql := Function.update s.irql t old } :=
      hd.same rfl (fun _ => rfl)
    cases after with
    | returnWith outcome =>
      refine hlow.returnWith ?_
      simp [hpc, Pc.outcome, After.outcome]
    | wakeByAddressAll previous =>
        exact hlow.move rfl rfl (by simp [hpc, Pc.outcome, After.outcome])
    | waitOnAddress oldState => exact hlow.move rfl rfl (by simp [hpc, Pc.outcome, After.outcome])
  | wakeByAddressAll hpc =>
    refine hd.wakeSleepers.returnWith ?_
    simp [State.wakeSleepers, hpc, Pc.outcome]
  | sleep hpc => exact hd.move rfl rfl (by rw [hpc]; rfl)
  | differs hpc => exact hd.move rfl rfl (by rw [hpc]; rfl)
  | wakeUp hpc => exact hd.move rfl rfl (by rw [hpc]; rfl)
  | timeOut hpc =>
    refine hd.returnWith ?_
    simp [hpc, Pc.outcome]
  | expired hpc =>
    refine hd.returnWith ?_
    simp [hpc, Pc.outcome]
  | again hpc => exact hd.move rfl rfl (by rw [hpc]; rfl)

/-! ## Conservation of signals -/

theorem total_returnWith {outcome : Outcome} (hmem : (t, outcome) ∈ s.decided) (o : Outcome) :
    (s.returnWith t outcome).total o = s.total o := by
  have hperm := (List.perm_cons_erase hmem).map Prod.snd
  have hcount := hperm.count_eq o
  simp only [State.total, State.returnWith, List.map_cons, List.count_cons] at hcount ⊢
  omega

theorem total_timeout (hnone : (t, Outcome.statusTimeout) ∉ s.decided) {o : Outcome}
    (ho : o ≠ .statusTimeout) : (s.returnWith t .statusTimeout).total o = s.total o := by
  simp [State.total, State.returnWith, List.erase_of_not_mem hnone, ho.symm]

theorem total_write {outcome : Option Outcome} {o : Outcome}
    (hdec : s'.decided = outcome.toList.map (t, ·) ++ s.decided)
    (hret : s'.returned = s.returned) :
    s'.total o = s.total o + if outcome = some o then 1 else 0 := by
  unfold State.total
  rw [hdec, hret]
  cases outcome with
  | none => simp
  | some outcome =>
    simp only [Option.toList_some, List.map_cons, List.map_nil, List.cons_append, List.nil_append,
      List.count_cons, beq_iff_eq, Option.some.injEq]
    omega

/-- The signals that were put into the event are those that were consumed and the one that is
still there. -/
def Balanced (initialState : Bool) (s : State) : Prop :=
  initialState.toNat + s.total (.previousState false) =
    s.total .statusSuccess + s.total (.cleared true) + s.event.signaled.toNat

theorem Balanced.same {initialState : Bool} (hb : Balanced initialState s)
    (htotal : ∀ o, o ≠ .statusTimeout → s'.total o = s.total o)
    (hevent : s'.event = s.event) : Balanced initialState s' := by
  unfold Balanced at hb ⊢
  rw [htotal _ (by simp), htotal _ (by simp), htotal _ (by simp), hevent]
  exact hb

theorem Balanced.timeout {initialState : Bool} (hb : Balanced initialState s) (hd : Decided s)
    (hnone : (s.pc t).outcome = none) : Balanced initialState (s.returnWith t .statusTimeout) := by
  have hmem : (t, Outcome.statusTimeout) ∉ s.decided := by
    rw [hd.mem, hnone]
    simp
  exact hb.same (fun o ho => total_timeout hmem ho) rfl

/-- The critical section of a call on a synchronization event. -/
theorem Balanced.write {initialState : Bool} {call : Call} (hb : Balanced initialState s)
    (htype : s.event.type = .synchronizationEvent)
    (hevent : s'.event.signaled = (criticalSection s.event s.event.signaled call).1)
    (hdec : s'.decided =
      (criticalSection s.event s.event.signaled call).2.outcome.toList.map (t, ·) ++ s.decided)
    (hret : s'.returned = s.returned) : Balanced initialState s' := by
  unfold Balanced at hb ⊢
  rw [total_write hdec hret, total_write hdec hret, total_write hdec hret, hevent]
  cases call with
  | keSetEvent =>
    cases hs : s.event.signaled with
    | true => simpa [criticalSection, After.outcome, hs] using hb
    | false =>
      simp only [hs, Bool.toNat_false, Nat.add_zero] at hb
      simp [criticalSection, After.outcome]
      omega
  | keClearEvent =>
    cases hs : s.event.signaled with
    | true =>
      simp only [hs, Bool.toNat_true] at hb
      simp [criticalSection, After.outcome, hs]
      omega
    | false => simpa [criticalSection, After.outcome, hs] using hb
  | keWaitForSingleObject =>
    cases hs : s.event.signaled with
    | true =>
      simp only [hs, Bool.toNat_true] at hb
      simp [criticalSection, After.outcome, htype]
      omega
    | false => simpa [criticalSection, After.outcome, hs] using hb

theorem balanced_step {initialState : Bool} (hl : Local s) (hd : Decided s)
    (htype : s.event.type = .synchronizationEvent) (hb : Balanced initialState s)
    (h : Step s a s') : Balanced initialState s' := by
  cases h with
  | @write t call seen old hpc =>
    have ht := hl.of_pc hpc
    obtain ⟨-, -, rfl⟩ := ht
    exact hb.write htype rfl rfl rfl
  | @lower t after old hpc =>
    cases after with
    | returnWith outcome =>
      have hmem : (t, outcome) ∈ s.decided := by
        rw [hd.mem, hpc]
        rfl
      exact hb.same (fun o _ => total_returnWith (s := { s with irql := _ }) hmem o) rfl
    | wakeByAddressAll previous => exact hb.same (fun _ _ => rfl) rfl
    | waitOnAddress oldState => exact hb.same (fun _ _ => rfl) rfl
  | @wakeByAddressAll t previous hpc =>
    have hmem : (t, Outcome.previousState previous) ∈ s.decided := by
      rw [hd.mem, hpc]
      rfl
    exact hb.same (fun o _ => total_returnWith (s := s.wakeSleepers) hmem o) rfl
  | timeOut hpc => exact hb.timeout hd (by rw [hpc]; rfl)
  | expired hpc => exact hb.timeout hd (by rw [hpc]; rfl)
  | _ => exact hb.same (fun _ _ => rfl) rfl

/-! ## Waits -/

/-- A wait on a notification event leaves it signaled or not, as it was. -/
theorem wait_keeps_signaled (htype : s.event.type = .notificationEvent)
    (hwait : (s.pc a.thread).isWait = true) (h : Step s a s') :
    s'.event.signaled = s.event.signaled := by
  cases h with
  | @write t call seen old hpc =>
    simp only [Action.thread, hpc, Pc.isWait, beq_iff_eq] at hwait
    subst hwait
    unfold criticalSection
    cases seen with
    | true => simp [htype]
    | false => simp
  | @lower t after old hpc => cases after <;> rfl
  | _ => rfl

/-- Nobody sleeps on a signaled event but while a `KeSetEvent` is about to wake the sleepers. -/
def NoLostWakeUp (s : State) : Prop :=
  ∀ t, s.pc t = .asleep → s.event.signaled = true → ∃ u, (s.pc u).isSetter = true

/-- A step of `t` that neither signals the event nor sends a thread to sleep. -/
theorem NoLostWakeUp.move (hn : NoLostWakeUp s) {pc : Pc} (hpc : s'.pc = Function.update s.pc t pc)
    (hsleep : pc ≠ .asleep) (hsignaled : s'.event.signaled = true → s.event.signaled = true)
    (hsetter : (s.pc t).isSetter = true → pc.isSetter = true) : NoLostWakeUp s' := by
  intro v hv hsig
  have hvt : v ≠ t := by
    rintro rfl
    rw [hpc, Function.update_self] at hv
    exact hsleep hv
  rw [hpc, Function.update_of_ne hvt] at hv
  obtain ⟨u, hu⟩ := hn v hv (hsignaled hsig)
  refine ⟨u, ?_⟩
  rw [hpc]
  by_cases hut : u = t
  · subst hut
    rw [Function.update_self]
    exact hsetter hu
  · rw [Function.update_of_ne hut]
    exact hu

theorem noLostWakeUp_step (hl : Local s) (hn : NoLostWakeUp s) (h : Step s a s') :
    NoLostWakeUp s' := by
  cases h with
  | setIrql hpc => exact hn
  | call hpc => exact hn.move rfl (by simp) id (by simp [hpc, Pc.isSetter])
  | lock hpc hfree => exact hn.move rfl (by simp) id (by simp [hpc, Pc.isSetter])
  | read hpc => exact hn.move rfl (by simp) id (by simp [hpc, Pc.isSetter])
  | @write t call seen old hpc =>
    have ht := hl.of_pc hpc
    obtain ⟨-, -, rfl⟩ := ht
    cases call with
    | keSetEvent =>
      intro v _ _
      refine ⟨t, ?_⟩
      simp [State.setPc, criticalSection, Pc.isSetter]
    | keClearEvent =>
      refine hn.move rfl (by simp) ?_ (by simp [hpc, Pc.isSetter])
      simp [criticalSection]
    | keWaitForSingleObject =>
      refine hn.move rfl (by simp) ?_ (by simp [hpc, Pc.isSetter])
      simp only [criticalSection]
      split
      · intro _
        assumption
      · exact id
  | @unlock t after old hpc =>
    refine hn.move rfl (by simp) id ?_
    rw [hpc]
    cases after <;> simp [Pc.isSetter]
  | @lower t after old hpc =>
    cases after with
    | returnWith outcome => exact hn.move rfl (by simp) id (by simp [hpc, Pc.isSetter])
    | wakeByAddressAll previous => exact hn.move rfl (by simp) id (by simp [Pc.isSetter])
    | waitOnAddress oldState => exact hn.move rfl (by simp) id (by simp [hpc, Pc.isSetter])
  | @wakeByAddressAll t previous hpc =>
    -- nobody is asleep any more
    intro v hv _
    simp only [State.returnWith, State.wakeSleepers] at hv
    by_cases hvt : v = t
    · subst hvt
      simp at hv
    · rw [Function.update_of_ne hvt] at hv
      split at hv
      · cases hv
      · exact absurd hv ‹_›
  | @sleep t hpc =>
    have ht := hl.of_pc hpc
    intro v _ hsig
    exact absurd (hsig.symm.trans ht.2) (by simp)
  | differs hpc => exact hn.move rfl (by simp) id (by simp [hpc, Pc.isSetter])
  | wakeUp hpc => exact hn.move rfl (by simp) id (by simp [hpc, Pc.isSetter])
  | timeOut hpc => exact hn.move rfl (by simp) id (by simp [hpc, Pc.isSetter])
  | expired hpc => exact hn.move rfl (by simp) id (by simp [hpc, Pc.isSetter])
  | again hpc => exact hn.move rfl (by simp) id (by simp [hpc, Pc.isSetter])

/-! ## The caller's IRQL -/

def IrqlRestored (s : State) : Prop := ∀ r ∈ s.returned, r.irqlAfter = r.irqlBefore

theorem IrqlRestored.returnWith (hr : IrqlRestored s) (ht : s.irql t = s.callerIrql t)
    (outcome : Outcome) : IrqlRestored (s.returnWith t outcome) := by
  intro r hmem
  simp only [State.returnWith, List.mem_cons] at hmem
  rcases hmem with rfl | hmem
  · exact ht
  · exact hr r hmem

theorem irqlRestored_step (hl : Local s) (hr : IrqlRestored s) (h : Step s a s') :
    IrqlRestored s' := by
  cases h with
  | @lower t after old hpc =>
    have ht := hl.of_pc hpc
    cases after with
    | returnWith outcome =>
      have hlow : IrqlRestored { s with irql := Function.update s.irql t old } := hr
      have hirql : Function.update s.irql t old t = s.callerIrql t := by
        rw [Function.update_self]
        exact ht.1
      exact hlow.returnWith hirql outcome
    | wakeByAddressAll previous => exact hr
    | waitOnAddress oldState => exact hr
  | @wakeByAddressAll t previous hpc =>
    have ht := hl.of_pc hpc
    exact IrqlRestored.returnWith (s := s.wakeSleepers) hr ht _
  | @timeOut t hpc =>
    have ht := hl.of_pc hpc
    exact hr.returnWith ht _
  | @expired t hpc =>
    have ht := hl.of_pc hpc
    exact hr.returnWith ht _
  | _ => exact hr

/-! ## Every run -/

structure Inv (type : EventType) (initialState : Bool) (s : State) : Prop where
  ofType : s.event.type = type
  locals : Local s
  decided : Decided s
  balanced : type = .synchronizationEvent → Balanced initialState s
  noLostWakeUp : NoLostWakeUp s
  irqlRestored : IrqlRestored s

theorem inv_init (type : EventType) (initialState : Bool) :
    Inv type initialState (State.init type initialState) where
  ofType := rfl
  locals := fun _ => trivial
  decided := ⟨List.nodup_nil, by simp [State.init, Pc.outcome]⟩
  balanced := fun _ => by simp [Balanced, State.init, State.total, keInitializeEvent]
  noLostWakeUp := fun t ht _ => by cases ht
  irqlRestored := fun r hr => by cases hr

theorem type_step (h : Step s a s') : s'.event.type = s.event.type := by
  cases h with
  | @lower t after old hpc => cases after <;> rfl
  | _ => rfl

theorem inv_step {type : EventType} {initialState : Bool} (hi : Inv type initialState s)
    (h : Step s a s') : Inv type initialState s' where
  ofType := (type_step h).trans hi.ofType
  locals := local_step hi.locals h
  decided := decided_step hi.decided h
  balanced := fun ht =>
    balanced_step hi.locals hi.decided (hi.ofType.trans ht) (hi.balanced ht) h
  noLostWakeUp := noLostWakeUp_step hi.locals hi.noLostWakeUp h
  irqlRestored := irqlRestored_step hi.locals hi.irqlRestored h

theorem inv_exec {type : EventType} {initialState : Bool} {run : List Action}
    (h : exec step (State.init type initialState) run = some s) : Inv type initialState s :=
  exec_invariant (fun _ _ _ hi hs => inv_step hi (step_cases hs)) (inv_init type initialState) h

/-- With no call under way, the totals are those of the calls that returned. -/
theorem total_of_idle (hd : Decided s) (hidle : ∀ t, s.pc t = .idle) (o : Outcome) :
    s.total o = (s.returned.map Returned.outcome).count o := by
  have hnil : s.decided = [] := by
    refine List.eq_nil_iff_forall_not_mem.mpr ?_
    rintro ⟨t, outcome⟩ hmem
    rw [hd.mem, hidle t] at hmem
    cases hmem
  simp [State.total, hnil]

/-- What holds of an event in a state. -/
structure Semantics (type : EventType) (initialState : Bool) (s : State) : Prop where
  /-- Calls are counted from their critical section on. -/
  conserved : type = .synchronizationEvent →
    initialState.toNat + s.total (.previousState false) =
      s.total .statusSuccess + s.total (.cleared true) + s.event.signaled.toNat
  /-- So with no call under way those are counted that have returned. -/
  settled : (∀ t, s.pc t = .idle) →
    ∀ outcome, s.total outcome = (s.returned.map Returned.outcome).count outcome
  waitsOnce : type = .synchronizationEvent →
    s.total .statusSuccess ≤ initialState.toNat + s.total (.previousState false)
  waitKeeps : type = .notificationEvent → ∀ a s', step s a = some s' →
    (s.pc a.thread).isWait = true → s'.event.signaled = s.event.signaled
  wakeUp : ∀ t, s.pc t = .asleep → s.event.signaled = true → ∃ u, (s.pc u).isSetter = true
  irql : ∀ r ∈ s.returned, r.irqlAfter = r.irqlBefore

theorem event_semantics (type : EventType) (initialState : Bool) (run : List Action) (s : State)
    (h : exec step (State.init type initialState) run = some s) :
    Semantics type initialState s := by
  have hi := inv_exec h
  constructor
  · exact hi.balanced
  · exact total_of_idle hi.decided
  · intro ht
    have hb := hi.balanced ht
    unfold Balanced at hb
    omega
  · intro ht a s' hs hwait
    exact wait_keeps_signaled (hi.ofType.trans ht) hwait (step_cases hs)
  · exact hi.noLostWakeUp
  · exact hi.irqlRestored

/-! ## Concrete runs -/

/-- A wait falls asleep, and a `KeSetEvent` stores TRUE and still owns the spin lock. -/
def setWhileAsleep : List Action :=
  [.call 0 .keWaitForSingleObject, .lock 0, .read 0, .write 0, .unlock 0, .lower 0,
   .waitOnAddress 0, .call 1 .keSetEvent, .lock 1, .read 1, .write 1]

/-- The `KeSetEvent` goes on to wake the sleeper, whose wait then returns. -/
def signalDelivered : List Action :=
  setWhileAsleep ++ [.unlock 1, .lower 1, .wakeByAddressAll 1, .queryTime 0 false, .lock 0,
    .read 0, .write 0, .unlock 0, .lower 0]

theorem event_semantics_signalDelivered :
    ∃ s, exec step (State.init .synchronizationEvent false) signalDelivered = some s ∧
      s.total .statusSuccess = 1 ∧ Semantics .synchronizationEvent false s := by
  obtain ⟨s, hs, htotal⟩ :
      ∃ s, exec step (State.init .synchronizationEvent false) signalDelivered = some s ∧
        s.total .statusSuccess = 1 := exec_of_check (by decide +kernel)
  exact ⟨s, hs, htotal, event_semantics _ _ _ _ hs⟩

/-- A thread that takes no step of a run is as idle as before. -/
theorem idle_exec {run : List Action} (hrun : ∀ a ∈ run, a.thread ≠ u) (hu : s.pc u = .idle)
    (h : exec step s run = some s') : s'.pc u = .idle := by
  refine exec_invariant_of_guard (P := fun s => s.pc u = .idle) ?_ hu
    (guarded_of_mem (Q := fun a => a.thread ≠ u) hrun) h
  intro s a s₁ hu hne h₁
  replace hne : u ≠ a.thread := Ne.symm hne
  cases step_cases h₁ with
  | setIrql hpc => exact hu
  | @lower t after old hpc => cases after <;> exact (Function.update_of_ne hne ..).trans hu
  | @wakeByAddressAll t previous hpc =>
    refine (Function.update_of_ne hne ..).trans ?_
    simp [State.wakeSleepers, hu]
  | _ => exact (Function.update_of_ne hne ..).trans hu

/-- A waiter sleeps on the signaled event although no `KeSetEvent` has released the spin lock. -/
theorem asleep_while_signaled_before_release :
    ∃ s, exec step (State.init .synchronizationEvent false) setWhileAsleep = some s ∧
      s.pc 0 = .asleep ∧ s.event.signaled = true ∧ ∀ u, (s.pc u).hasReleased = false := by
  obtain ⟨s, hs, h0, hsig, h1⟩ :
      ∃ s, exec step (State.init .synchronizationEvent false) setWhileAsleep = some s ∧
        s.pc 0 = .asleep ∧ s.event.signaled = true ∧
        s.pc 1 = .written (.wakeByAddressAll false) 0 :=
    exec_of_check (by decide +kernel)
  refine ⟨s, hs, h0, hsig, ?_⟩
  intro u
  by_cases hu0 : u = 0
  · rw [hu0, h0]
    rfl
  · by_cases hu1 : u = 1
    · rw [hu1, h1]
      rfl
    · have hidle : s.pc u = .idle := by
        refine idle_exec ?_ rfl hs
        simp [setWhileAsleep, Action.thread, Ne.symm hu0, Ne.symm hu1]
      rw [hidle]
      rfl

end Usersim.Event
