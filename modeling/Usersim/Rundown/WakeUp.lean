import Usersim.Lib.Condition
import Usersim.Rundown.Protocol

/-!
# The condition variable of the rundown table (`rundown_winuser.cpp`)

`wait_for_rundown_ref` sleeps on `_rundown_ref_cv`, which every reference shares, and
`release_rundown_ref` notifies it when a count gets to zero; no other function does. In `step` a
wait returns when its predicate is true.

* `rundown_waits_wake` — that is what the condition variable comes to
-/

namespace Usersim.Rundown

open Lib

/-- A sleeper is the thread with the reference it waits for; there is one variable. -/
def waits : Condition.Waits State Action (Tid × Ref) Unit where
  step := step
  waiting := fun s w => s.waiting.contains w
  ready := fun s w => waitPredicate s.table w.2
  condition := fun _ _ => ()
  mover := fun a =>
    match a.call with
    | .wake r => some (a.thread, r)
    | .initRef _ | .reinitRef _ | .acquire _ | .release _ | .wait _ => none
  -- `release_rundown_ref` looks at the count it has decremented
  notifies := fun s a _ =>
    match a.call with
    | .release r => (s.table r).any fun e => e.refCount == 1
    | .initRef _ | .reinitRef _ | .acquire _ | .wait _ | .wake _ => false
  owes := fun _ _ _ => false

/-- Whatever is waited for is run down. -/
def WaitedFor (s : State) : Prop :=
  ∀ w ∈ s.waiting, ∃ e, s.table w.2 = some e ∧ e.rundown = true

variable {s s' : State} {t : Tid} {r : Ref}

theorem waitedFor_init : WaitedFor .init := fun _ hw => by cases hw

/-- An entry that is replaced, with its flag kept or set. -/
theorem WaitedFor.update (h : WaitedFor s) {e : Entry}
    (he : e.rundown = true ∨ ∀ w ∈ s.waiting, w.2 ≠ r) :
    ∀ w ∈ s.waiting, ∃ e', Function.update s.table r (some e) w.2 = some e' ∧
      e'.rundown = true := by
  intro w hw
  by_cases hwr : w.2 = r
  · refine ⟨e, by rw [hwr, Function.update_self], ?_⟩
    exact he.resolve_right fun hne => hne w hw hwr
  · rw [Function.update_of_ne hwr]
    exact h w hw

/-- Nobody waits for a reference that is not run down. -/
theorem WaitedFor.ne (h : WaitedFor s) {e : Entry} (he : s.table r = some e)
    (hr : e.rundown = false) : ∀ w ∈ s.waiting, w.2 ≠ r := by
  rintro w hw rfl
  obtain ⟨e', he', hr'⟩ := h w hw
  rw [he] at he'
  rw [Option.some.inj he', hr'] at hr
  cases hr

/-- An entry that keeps its flag. -/
theorem WaitedFor.keep (h : WaitedFor s) {e e' : Entry} (he : s.table r = some e)
    (hr : e'.rundown = e.rundown) : e'.rundown = true ∨ ∀ w ∈ s.waiting, w.2 ≠ r := by
  cases hrun : e.rundown with
  | true => exact .inl (hr.trans hrun)
  | false => exact .inr (h.ne he hrun)

theorem WaitedFor.outcome {c : Call} (h : WaitedFor s) (ha : Admissible s ⟨t, c⟩)
    (ho : Outcome s t c s') : WaitedFor s' := by
  cases ho with
  | threw _ => exact h
  | initRef r => exact h.update (.inr ha)
  | reinitRef _ _ _ => exact h.update (.inr ha)
  | refused _ _ => exact h
  | acquire he hr => exact h.update (h.keep he rfl)
  | release he hc => exact h.update (h.keep he rfl)
  | waitReturned _ _ => exact h.update (.inl rfl)
  | waitSleeps _ _ =>
    intro w hw
    rcases List.mem_cons.mp hw with rfl | hw
    · exact ⟨_, Function.update_self .., rfl⟩
    · exact h.update (.inl rfl) w hw
  | wake _ _ _ => exact fun w hw => h w (List.mem_of_mem_erase hw)

theorem Outcome.mem_waiting {c : Call} {w : Tid × Ref} (ho : Outcome s t c s')
    (hw : w ∈ s.waiting) (hmove : ∀ r, c = .wake r → w ≠ (t, r)) : w ∈ s'.waiting := by
  cases ho with
  | waitSleeps _ _ => exact List.mem_cons_of_mem _ hw
  | wake _ _ _ => exact (List.mem_erase_of_ne (hmove _ rfl)).mpr hw
  | _ => exact hw

theorem waitPredicate_of_some {table : Table} {e : Entry} (he : table r = some e) :
    waitPredicate table r = (e.refCount == 0) := by
  rw [waitPredicate, he]

theorem waitPredicate_update_of_ne {table : Table} {r' : Ref} {o : Option Entry} (hr : r' ≠ r) :
    waitPredicate (Function.update table r o) r' = waitPredicate table r' := by
  rw [waitPredicate, waitPredicate, Function.update_of_ne hr]

/-- An entry that keeps its count keeps every predicate. -/
theorem waitPredicate_update {table : Table} {r' : Ref} {e e' : Entry} (he : table r = some e)
    (hc : e'.refCount = e.refCount) :
    waitPredicate (Function.update table r (some e')) r' = waitPredicate table r' := by
  by_cases hr : r' = r
  · subst hr
    rw [waitPredicate_of_some he, waitPredicate_of_some (Function.update_self ..), hc]
  · exact waitPredicate_update_of_ne hr

/-- A predicate becomes true under the release of the last reference, and nowhere else. -/
theorem Outcome.signals {c : Call} {w : Tid × Ref} (ho : Outcome s t c s') (h : WaitedFor s)
    (ha : Admissible s ⟨t, c⟩) (hw : w ∈ s.waiting) (hbefore : waitPredicate s.table w.2 = false)
    (hafter : waitPredicate s'.table w.2 = true) :
    ∃ e, c = .release w.2 ∧ s.table w.2 = some e ∧ e.refCount = 1 := by
  have hchange : waitPredicate s'.table w.2 ≠ waitPredicate s.table w.2 := by
    rw [hbefore, hafter]
    exact Bool.false_ne_true.symm
  cases ho with
  | threw _ => exact (hchange rfl).elim
  | initRef r => exact (hchange (waitPredicate_update_of_ne (ha w hw))).elim
  | reinitRef _ _ _ => exact (hchange (waitPredicate_update_of_ne (ha w hw))).elim
  | refused _ _ => exact (hchange rfl).elim
  | acquire he hr => exact (hchange (waitPredicate_update_of_ne (h.ne he hr w hw))).elim
  | @release r e he hc =>
    by_cases hwr : w.2 = r
    · subst hwr
      have hzero : e.refCount - 1 = 0 := by simpa [waitPredicate] using hafter
      exact ⟨e, rfl, he, by omega⟩
    · exact (hchange (waitPredicate_update_of_ne hwr)).elim
  | waitReturned he _ => exact (hchange (waitPredicate_update he rfl)).elim
  | waitSleeps he _ => exact (hchange (waitPredicate_update he rfl)).elim
  | wake _ _ _ => exact (hchange rfl).elim

/-- A wait that returns has found its predicate true. -/
theorem mover_ready {a : Action} (hs : step s a = some s') :
    ∀ w, waits.mover a = some w → waits.ready s w = true := by
  obtain ⟨t, c⟩ := a
  have ho := step_outcome hs
  intro w hw
  cases c with
  | wake r =>
    obtain rfl := Option.some.inj hw
    cases ho with
    | threw hthrows =>
      cases hthrows with
      | notInitialized _ hno _ => exact absurd rfl (hno r)
    | wake he hc _ => exact (waitPredicate_of_some he).trans (beq_iff_eq.mpr hc)
  | _ => cases hw

theorem waits_notifies : Condition.Notifies waits WaitedFor Admissible where
  keeps _ _ _ h ha hs := h.outcome ha (step_outcome hs)
  stays s a s' w _ _ hs hw hmove := by
    have hmem : w ∈ s.waiting := List.contains_iff_mem.mp hw
    refine ⟨List.contains_iff_mem.mpr ((step_outcome hs).mem_waiting hmem ?_), rfl⟩
    intro r hr heq
    exact hmove (by simp [waits, hr, heq])
  moves s a s' w hs := mover_ready hs w
  signals s a s' w h ha hs hw _ hbefore hafter := by
    obtain ⟨e, hc, he, hcount⟩ :=
      (step_outcome hs).signals h ha (List.contains_iff_mem.mp hw) hbefore hafter
    exact .inl (by simp [waits, hc, he, hcount])

/--
The condition variable loses no wake-up. However threads fall asleep, wake up for no reason and are
notified, the table goes through critical sections that it can go through without the variable; a
thread sleeps only while the count it waits for is not zero; and whatever the table can do at any
moment, it can do then, a wait that can return included.
-/
theorem rundown_waits_wake {bs : List (Condition.Act Action (Tid × Ref) Unit)}
    {m : Condition.Monitor State (Tid × Ref) Unit}
    (hg : Guarded (Condition.step waits) (Condition.OnActs Admissible) (.init .init) bs)
    (h : exec (Condition.step waits) (.init .init) bs = some m) :
    exec step .init (Condition.acts bs) = some m.state ∧
      (∀ t r, m.asleep (t, r) = true →
        (t, r) ∈ m.state.waiting ∧ ∃ e, m.state.table r = some e ∧ e.refCount ≠ 0) ∧
      ∀ a s, step m.state a = some s →
        ∃ m', Condition.step waits m (.act a) = some m' ∧ m'.state = s := by
  have hinv : Condition.Inv waits WaitedFor m :=
    Condition.inv_exec waits_notifies (Condition.inv_init waitedFor_init) hg h
  have howed : ∀ k, m.owed k = false :=
    Condition.not_owed_exec (W := waits) (fun _ _ _ => rfl) (fun _ => rfl) h
  refine ⟨Condition.exec_acts h, fun t r hasleep => ?_, fun a s hs => ?_⟩
  · have hwaiting : (t, r) ∈ m.state.waiting := List.contains_iff_mem.mp (hinv.waiting _ hasleep)
    obtain ⟨e, he, -⟩ := hinv.holds _ hwaiting
    refine ⟨hwaiting, e, he, fun hc => ?_⟩
    -- a notification would have to be on its way
    have hready : waits.ready m.state (t, r) = true := by
      rw [← beq_iff_eq, ← waitPredicate_of_some he] at hc
      exact hc
    exact Bool.false_ne_true ((howed ()).symm.trans (hinv.owed _ hasleep hready))
  · obtain ⟨before, m', hbefore, hexec, hstate⟩ := Condition.exists_exec_act waits_notifies hinv hs
    rcases hbefore with rfl | ⟨k, hk, -⟩
    · exact ⟨m', (exec_singleton ..).symm.trans hexec, hstate⟩
    · exact (Bool.false_ne_true ((howed k).symm.trans hk)).elim

/-- Two threads wait for two references: the release for one wakes both, and one sleeps again. -/
def twoWaits : List (Condition.Act Action (Tid × Ref) Unit) :=
  [.act ⟨0, .initRef 8⟩, .act ⟨0, .initRef 16⟩, .act ⟨0, .acquire 8⟩, .act ⟨0, .acquire 16⟩,
    .act ⟨1, .wait 8⟩, .act ⟨2, .wait 16⟩, .test (1, 8), .test (2, 16), .act ⟨0, .release 8⟩,
    .test (2, 16), .wakeUp (2, 16), .test (2, 16)]

theorem rundown_waits_wake_two :
    ∃ m, exec (Condition.step waits) (.init .init) twoWaits = some m ∧
      m.asleep (1, 8) = false ∧ m.asleep (2, 16) = true ∧
      ∃ m', Condition.step waits m (.act ⟨1, .wake 8⟩) = some m' ∧
        m'.state.waiting = [(2, 16)] := by
  have hrun : exec (Condition.step waits) (.init .init) twoWaits = some _ := rfl
  have hadmissible : Guarded (Condition.step waits) (Condition.OnActs Admissible) (.init .init)
      twoWaits := guarded_of_check (by decide)
  obtain ⟨-, -, hact⟩ := rundown_waits_wake hadmissible hrun
  obtain ⟨m', hm', hstate⟩ := hact ⟨1, .wake 8⟩ _ rfl
  refine ⟨_, hrun, rfl, rfl, m', hm', ?_⟩
  rw [hstate]
  rfl

end Usersim.Rundown
