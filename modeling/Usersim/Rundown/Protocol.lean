import Usersim.Rundown.Basic

/-!
# The rundown protection protocol

`Agrees` ties the table to the log: the stored count is acquires minus releases since the last
`initialize`, and the flag says whether a wait has started since the last `initialize` or
`reinitialize`. Every critical section keeps it (`agrees_step`), so it holds after every run.

* `Outcome` — everything a critical section can do, with what it found in the table
* `rundown_protection_protocol` — the protocol, for every interleaving
-/

namespace Usersim.Rundown

open Lib

/-! ## What a critical section can do -/

/-- The cases in which a call throws, and with which error. -/
inductive Throws (table : Table) : Call → Error → Prop
  | notInitialized {c : Call} (h : table c.ref = none) (hw : ∀ r, c ≠ .wake r)
      (hi : ∀ r, c ≠ .initRef r) : Throws table c .notInitialized
  | notRundown {r : Ref} {e : Entry} (h : table r = some e) (hr : e.rundown = false) :
      Throws table (.reinitRef r) .notRundown
  | corruption {r : Ref} {e : Entry} (h : table r = some e) (hr : e.rundown = true)
      (hc : e.refCount ≠ 0) : Throws table (.reinitRef r) .corruption
  | alreadyReleased {r : Ref} {e : Entry} (h : table r = some e) (hc : e.refCount = 0) :
      Throws table (.release r) .alreadyReleased

/-- Everything the critical section of a call can do. -/
inductive Outcome (s : State) (t : Tid) : Call → State → Prop
  | threw {c : Call} {e : Error} (h : Throws s.table c e) : Outcome s t c (s.threw c e)
  | initRef (r : Ref) :
      Outcome s t (.initRef r)
        { s with table := Function.update s.table r (some { rundown := false, refCount := 0 }),
                 log := .initialized r :: s.log }
  | reinitRef {r : Ref} {e : Entry} (h : s.table r = some e) (hr : e.rundown = true)
      (hc : e.refCount = 0) :
      Outcome s t (.reinitRef r)
        { s with table := Function.update s.table r (some { e with rundown := false }),
                 log := .reinitialized r :: s.log }
  | refused {r : Ref} {e : Entry} (h : s.table r = some e) (hr : e.rundown = true) :
      Outcome s t (.acquire r) { s with log := .acquired r false :: s.log }
  | acquire {r : Ref} {e : Entry} (h : s.table r = some e) (hr : e.rundown = false) :
      Outcome s t (.acquire r)
        { s with
          table := Function.update s.table r
            (some { e with refCount := (e.refCount + 1) % 2 ^ 64 }),
          log := .acquired r true :: s.log }
  | release {r : Ref} {e : Entry} (h : s.table r = some e) (hc : e.refCount ≠ 0) :
      Outcome s t (.release r)
        { s with table := Function.update s.table r (some { e with refCount := e.refCount - 1 }),
                 log := .released r :: s.log }
  | waitReturned {r : Ref} {e : Entry} (h : s.table r = some e) (hc : e.refCount = 0) :
      Outcome s t (.wait r)
        { s with table := Function.update s.table r (some { e with rundown := true }),
                 log := .waitReturned r :: .waitStarted r :: s.log }
  | waitSleeps {r : Ref} {e : Entry} (h : s.table r = some e) (hc : e.refCount ≠ 0) :
      Outcome s t (.wait r)
        { table := Function.update s.table r (some { e with rundown := true }),
          waiting := (t, r) :: s.waiting, log := .waitStarted r :: s.log }
  | wake {r : Ref} {e : Entry} (h : s.table r = some e) (hc : e.refCount = 0)
      (hw : (t, r) ∈ s.waiting) :
      Outcome s t (.wake r)
        { s with waiting := s.waiting.erase (t, r), log := .waitReturned r :: s.log }

theorem initializeRundownRef_eq (table : Table) (r : Ref) :
    initializeRundownRef table r =
      Function.update table r (some { rundown := false, refCount := 0 }) := by
  unfold initializeRundownRef
  split <;> simp

theorem call_outcome {s s' : State} {t : Tid} {c : Call} (h : call s t c = some s') :
    Outcome s t c s' := by
  cases c with
  | initRef r =>
    simp only [call, Option.some.injEq, initializeRundownRef_eq] at h
    rw [← h]
    exact .initRef r
  | reinitRef r =>
    cases he : s.table r with
    | none =>
      simp only [call, reinitializeRundownRef, he, Option.some.injEq] at h
      rw [← h]
      exact .threw (.notInitialized he nofun nofun)
    | some e =>
      simp only [call, reinitializeRundownRef, he] at h
      by_cases hr : e.rundown = true
      · by_cases hc : e.refCount = 0
        · rw [if_neg (by simp [hr]), if_neg (by simp [hc])] at h
          cases h
          exact .reinitRef he hr hc
        · simp only [hr, hc, Bool.not_true, ne_eq, not_false_eq_true, if_true] at h
          cases h
          exact .threw (.corruption he hr hc)
      · have hr' : e.rundown = false := by simpa using hr
        simp only [hr', Bool.not_false, if_true] at h
        cases h
        exact .threw (.notRundown he hr')
  | acquire r =>
    cases he : s.table r with
    | none =>
      simp only [call, acquireRundownRef, he, Option.some.injEq] at h
      rw [← h]
      exact .threw (.notInitialized he nofun nofun)
    | some e =>
      simp only [call, acquireRundownRef, he] at h
      by_cases hr : e.rundown = true
      · simp only [hr, if_true] at h
        cases h
        exact .refused he hr
      · have hr' : e.rundown = false := by simpa using hr
        rw [if_neg hr] at h
        cases h
        exact .acquire he hr'
  | release r =>
    cases he : s.table r with
    | none =>
      simp only [call, releaseRundownRef, he, Option.some.injEq] at h
      rw [← h]
      exact .threw (.notInitialized he nofun nofun)
    | some e =>
      simp only [call, releaseRundownRef, he] at h
      by_cases hc : e.refCount = 0
      · simp only [hc, if_true] at h
        cases h
        exact .threw (.alreadyReleased he hc)
      · simp only [hc, if_false] at h
        cases h
        exact .release he hc
  | wait r =>
    cases he : s.table r with
    | none =>
      simp only [call, waitForRundownRef, he, Option.some.injEq] at h
      rw [← h]
      exact .threw (.notInitialized he nofun nofun)
    | some e =>
      simp only [call, waitForRundownRef, he] at h
      by_cases hc : e.refCount = 0
      · simp only [show (e.refCount == 0) = true by simpa using hc] at h
        cases h
        exact .waitReturned he hc
      · simp only [show (e.refCount == 0) = false by simpa using hc] at h
        cases h
        exact .waitSleeps he hc
  | wake r =>
    simp only [call] at h
    split at h
    · next hw =>
      obtain ⟨hmem, hp⟩ := hw
      cases h
      cases he : s.table r with
      | none => simp [waitPredicate, he] at hp
      | some e => exact .wake he (by simpa [waitPredicate, he] using hp) hmem
    · cases h

theorem step_outcome {s s' : State} {a : Action} (h : step s a = some s') :
    Outcome s a.thread a.call s' := by
  unfold step at h
  split at h
  · cases h
  · exact call_outcome h

/-! ## The log -/

theorem acquires_cons (r : Ref) (e : Event) (log : List Event) :
    acquires r (e :: log) =
      if e = .initialized r then 0
      else acquires r log + if e = .acquired r true then 1 else 0 := by
  unfold acquires sinceInitialize
  by_cases h : e = .initialized r
  · simp [h]
  · simp [h, List.count_cons]

theorem releases_cons (r : Ref) (e : Event) (log : List Event) :
    releases r (e :: log) =
      if e = .initialized r then 0
      else releases r log + if e = .released r then 1 else 0 := by
  unfold releases sinceInitialize
  by_cases h : e = .initialized r
  · simp [h]
  · simp [h, List.count_cons]

/-! ## The invariant -/

/-- The entry of `r` is what the log says. -/
def EntryOk (r : Ref) (log : List Event) : Option Entry → Prop
  | none => Event.initialized r ∉ log
  | some e => Event.initialized r ∈ log ∧ e.refCount + releases r log = acquires r log ∧
      e.rundown = runDown r log

def Agrees (s : State) : Prop := ∀ r, EntryOk r s.log (s.table r)

theorem agrees_init : Agrees State.init := by
  intro r
  simp [EntryOk, State.init]

/-- An event that says nothing about `r`. -/
def Event.Silent (r : Ref) : Event → Prop
  | .initialized r' | .reinitialized r' | .released r' | .waitStarted r' => r' ≠ r
  | .acquired r' result => r' ≠ r ∨ result = false
  | .waitReturned _ | .threw _ _ => True

/-- An event that says nothing about `r` leaves what the log says about `r`. -/
theorem EntryOk.silent {r : Ref} {log : List Event} {o : Option Entry} {e : Event}
    (h : EntryOk r log o) (he : e.Silent r) : EntryOk r (e :: log) o := by
  have hi : e ≠ .initialized r := by
    rintro rfl
    exact he rfl
  have ha : e ≠ .acquired r true := by
    rintro rfl
    exact he.elim (· rfl) nofun
  have hr : e ≠ .released r := by
    rintro rfl
    exact he rfl
  have hd : runDown r (e :: log) = runDown r log := by
    cases e <;> simp_all [runDown, Event.Silent]
  cases o with
  | none =>
    simp only [EntryOk, List.mem_cons, not_or] at h ⊢
    exact ⟨hi.symm, h⟩
  | some x =>
    obtain ⟨h1, h2, h3⟩ := h
    refine ⟨List.mem_cons_of_mem _ h1, ?_, by rw [hd]; exact h3⟩
    simp only [acquires_cons, releases_cons, hi, ha, hr, if_false, Nat.add_zero]
    exact h2

/-- A critical section that rewrites the entry of `r` has to be right about `r` only. -/
theorem agrees_update {s : State} {r : Ref} {x : Entry} {ev : Event} {w : List (Tid × Ref)}
    (h : Agrees s) (hother : ∀ r', r' ≠ r → ev.Silent r')
    (hr : EntryOk r (ev :: s.log) (some x)) :
    Agrees { table := Function.update s.table r (some x), waiting := w, log := ev :: s.log } := by
  intro r'
  by_cases hrr : r' = r
  · subst hrr
    simpa using hr
  · simp only [Function.update_of_ne hrr]
    exact (h r').silent (hother r' hrr)

theorem agrees_silent {s : State} {ev : Event} {w : List (Tid × Ref)} (h : Agrees s)
    (hev : ∀ r, ev.Silent r) : Agrees { table := s.table, waiting := w, log := ev :: s.log } :=
  fun r => (h r).silent (hev r)

theorem agrees_outcome {s s' : State} {t : Tid} {c : Call} (h : Agrees s)
    (ha : Admissible s ⟨t, c⟩) (ho : Outcome s t c s') : Agrees s' := by
  cases ho with
  | threw _ => exact agrees_silent h fun _ => trivial
  | initRef r =>
    refine agrees_update h (fun r' hr' => hr'.symm) ⟨List.mem_cons_self .., ?_, ?_⟩
    · simp [acquires_cons, releases_cons]
    · simp [runDown]
  | @reinitRef r e he hr hc =>
    have hok := h r
    rw [he] at hok
    obtain ⟨h1, h2, -⟩ := hok
    refine agrees_update h (fun r' hr' => hr'.symm) ⟨List.mem_cons_of_mem _ h1, ?_, ?_⟩
    · simpa [acquires_cons, releases_cons] using h2
    · simp [runDown]
  | refused _ _ => exact agrees_silent h fun _ => Or.inr rfl
  | @acquire r e he hr =>
    have hok := h r
    rw [he] at hok
    obtain ⟨h1, h2, h3⟩ := hok
    -- fewer than 2 ^ 64 outstanding acquires: the increment does not wrap
    have hlt : e.refCount + 1 < 2 ^ 64 := by
      have hb : acquires r s.log - releases r s.log + 1 < 2 ^ 64 := ha
      omega
    refine agrees_update h (fun r' hr' => Or.inl hr'.symm) ⟨List.mem_cons_of_mem _ h1, ?_, ?_⟩
    · simp only [acquires_cons, releases_cons, reduceCtorEq, if_false, if_true, Nat.add_zero,
        Nat.mod_eq_of_lt hlt]
      omega
    · simpa [runDown] using h3
  | @release r e he hc =>
    have hok := h r
    rw [he] at hok
    obtain ⟨h1, h2, h3⟩ := hok
    refine agrees_update h (fun r' hr' => hr'.symm) ⟨List.mem_cons_of_mem _ h1, ?_, ?_⟩
    · simp only [acquires_cons, releases_cons, reduceCtorEq, if_false, if_true, Nat.add_zero]
      omega
    · simpa [runDown] using h3
  | @waitReturned r e he hc =>
    have hok := h r
    rw [he] at hok
    obtain ⟨h1, h2, -⟩ := hok
    have hstart : Agrees { s with
        table := Function.update s.table r (some { e with rundown := true }),
        log := .waitStarted r :: s.log } := by
      refine agrees_update h (fun r' hr' => hr'.symm) ⟨List.mem_cons_of_mem _ h1, ?_, ?_⟩
      · simpa [acquires_cons, releases_cons] using h2
      · simp [runDown]
    exact fun r' => (hstart r').silent trivial
  | @waitSleeps r e he hc =>
    have hok := h r
    rw [he] at hok
    obtain ⟨h1, h2, -⟩ := hok
    refine agrees_update h (fun r' hr' => hr'.symm) ⟨List.mem_cons_of_mem _ h1, ?_, ?_⟩
    · simpa [acquires_cons, releases_cons] using h2
    · simp [runDown]
  | wake _ _ _ => exact agrees_silent h fun _ => trivial

theorem agrees_step {s s' : State} {a : Action} (h : Agrees s) (ha : Admissible s a)
    (hs : step s a = some s') : Agrees s' :=
  agrees_outcome h ha (step_outcome hs)

/-- The table agrees with the log after every admissible run. -/
theorem agrees_run {as : List Action} {s : State} (hg : Guarded step Admissible State.init as)
    (h : exec step State.init as = some s) : Agrees s :=
  exec_invariant_of_guard (fun _ _ _ => agrees_step) agrees_init hg h

/-! ## The protocol -/

/-- What one call does, said on the state before it and the state after it. -/
structure CallSpec (s : State) (a : Action) (s' : State) : Prop where
  /-- An acquire of an initialized reference fails exactly while it is run down. -/
  acquire_result : ∀ r e, a.call = .acquire r → s.table r = some e →
    s'.log = .acquired r (!runDown r s.log) :: s.log
  /-- A wait returns only when no acquire is outstanding. -/
  wait_returns : ∀ r log, s'.log = .waitReturned r :: log →
    acquires r s'.log = releases r s'.log
  /-- A call throws in the listed cases and in no other. -/
  throws_iff : (∃ e, s'.log = .threw a.call e :: s.log) ↔ ∃ e, Throws s.table a.call e
  /-- A call that throws leaves the whole table, and the sleeping waits, unchanged. -/
  throw_unchanged : ∀ c e log, s'.log = .threw c e :: log →
    s'.table = s.table ∧ s'.waiting = s.waiting
  /-- No call changes the entry of another reference. -/
  frame : ∀ r, r ≠ a.call.ref → s'.table r = s.table r

theorem not_throws_of_some {table : Table} {c : Call} {e : Entry} (h : table c.ref = some e)
    (hr : ∀ r, c ≠ .reinitRef r) (hl : ∀ r, c ≠ .release r) : ¬ ∃ x, Throws table c x := by
  rintro ⟨x, hx⟩
  cases hx with
  | notInitialized hn => rw [h] at hn; cases hn
  | notRundown => exact hr _ rfl
  | corruption => exact hr _ rfl
  | alreadyReleased => exact hl _ rfl

theorem Outcome.throws_iff {s s' : State} {t : Tid} {c : Call} (ho : Outcome s t c s') :
    (∃ e, s'.log = .threw c e :: s.log) ↔ ∃ e, Throws s.table c e := by
  cases ho with
  | threw h => exact ⟨fun _ => ⟨_, h⟩, fun _ => ⟨_, rfl⟩⟩
  | initRef r =>
    refine ⟨fun ⟨_, h⟩ => by simp at h, ?_⟩
    rintro ⟨x, hx⟩
    cases hx with
    | notInitialized _ _ hi => exact absurd rfl (hi r)
  | reinitRef h hr hc =>
    refine ⟨fun ⟨_, h⟩ => by simp at h, ?_⟩
    rintro ⟨x, hx⟩
    cases hx with
    | notInitialized hn => cases h.symm.trans hn
    | notRundown h' hr' => rw [h] at h'; cases h'; rw [hr] at hr'; cases hr'
    | corruption h' _ hc' => rw [h] at h'; cases h'; exact absurd hc hc'
  | release h hc =>
    refine ⟨fun ⟨_, h⟩ => by simp at h, ?_⟩
    rintro ⟨x, hx⟩
    cases hx with
    | notInitialized hn => cases h.symm.trans hn
    | alreadyReleased h' hc' => rw [h] at h'; cases h'; exact absurd hc' hc
  | refused h _ => exact ⟨fun ⟨_, h⟩ => by simp at h, fun hx =>
      absurd hx (not_throws_of_some (c := .acquire _) h nofun nofun)⟩
  | acquire h _ => exact ⟨fun ⟨_, h⟩ => by simp at h, fun hx =>
      absurd hx (not_throws_of_some (c := .acquire _) h nofun nofun)⟩
  | waitReturned h _ => exact ⟨fun ⟨_, h⟩ => by simp at h, fun hx =>
      absurd hx (not_throws_of_some (c := .wait _) h nofun nofun)⟩
  | waitSleeps h _ => exact ⟨fun ⟨_, h⟩ => by simp at h, fun hx =>
      absurd hx (not_throws_of_some (c := .wait _) h nofun nofun)⟩
  | wake h _ _ => exact ⟨fun ⟨_, h⟩ => by simp at h, fun hx =>
      absurd hx (not_throws_of_some (c := .wake _) h nofun nofun)⟩

theorem Outcome.throw_unchanged {s s' : State} {t : Tid} {c : Call} (ho : Outcome s t c s')
    {c' : Call} {e : Error} {log : List Event} (h : s'.log = .threw c' e :: log) :
    s'.table = s.table ∧ s'.waiting = s.waiting := by
  cases ho with
  | threw _ => exact ⟨rfl, rfl⟩
  | _ => simp at h

theorem Outcome.frame {s s' : State} {t : Tid} {c : Call} (ho : Outcome s t c s') {r : Ref}
    (hr : r ≠ c.ref) : s'.table r = s.table r := by
  cases ho with
  | threw _ => rfl
  | refused _ _ => rfl
  | wake _ _ _ => rfl
  | _ => exact Function.update_of_ne hr _ _

theorem Outcome.acquire_result {s s' : State} {t : Tid} {c : Call} (ho : Outcome s t c s')
    (hag : Agrees s) {r : Ref} {e : Entry} (hc : c = .acquire r) (he : s.table r = some e) :
    s'.log = .acquired r (!runDown r s.log) :: s.log := by
  have hok := hag r
  rw [he] at hok
  obtain ⟨-, -, hrun⟩ := hok
  subst hc
  cases ho with
  | threw h => exact absurd ⟨_, h⟩ (not_throws_of_some (c := .acquire r) he nofun nofun)
  | refused h hr =>
    rw [he] at h
    cases h
    rw [← hrun, hr]
    rfl
  | acquire h hr =>
    rw [he] at h
    cases h
    rw [← hrun, hr]
    rfl

theorem Outcome.wait_returns {s s' : State} {t : Tid} {c : Call} (ho : Outcome s t c s')
    (hag : Agrees s') {r : Ref} {log : List Event} (h : s'.log = .waitReturned r :: log) :
    acquires r s'.log = releases r s'.log := by
  -- the wait that returned found the count of its entry at zero, and the count is what the log says
  have hzero : ∃ e, s'.table r = some e ∧ e.refCount = 0 := by
    cases ho with
    | waitReturned _ hc =>
      simp only [List.cons.injEq, Event.waitReturned.injEq] at h
      obtain ⟨rfl, -⟩ := h
      exact ⟨_, Function.update_self .., hc⟩
    | wake he hc _ =>
      simp only [List.cons.injEq, Event.waitReturned.injEq] at h
      obtain ⟨rfl, -⟩ := h
      exact ⟨_, he, hc⟩
    | threw _ => simp [State.threw] at h
    | _ => simp at h
  obtain ⟨e, he, hc⟩ := hzero
  have hok := hag r
  rw [he] at hok
  have hcount := hok.2.1
  omega

/--
The rundown protocol, for every admissible interleaving: the stored count is acquires minus
releases since the last `initialize` (as an equation of naturals, so it never underflows), and
every further call does what `CallSpec` says.
-/
theorem rundown_protection_protocol {as : List Action} {s : State}
    (hg : Guarded step Admissible State.init as) (h : exec step State.init as = some s) :
    (∀ r e, s.table r = some e → e.refCount + releases r s.log = acquires r s.log) ∧
      ∀ a s', Admissible s a → step s a = some s' → CallSpec s a s' := by
  have hag : Agrees s := agrees_run hg h
  refine ⟨fun r e he => ?_, fun a s' ha hs => ?_⟩
  · have hok := hag r
    rw [he] at hok
    exact hok.2.1
  · have ho := step_outcome hs
    have hag' : Agrees s' := agrees_step hag ha hs
    exact {
      acquire_result := fun r e hc he => ho.acquire_result hag hc he
      wait_returns := fun r log hl => ho.wait_returns hag' hl
      throws_iff := ho.throws_iff
      throw_unchanged := fun c e log hl => ho.throw_unchanged hl
      frame := fun r hr => ho.frame hr }

/-- One acquire, a wait that sleeps on it, a refused acquire, the release and the wake-up. -/
def waitForRelease : List Action :=
  [⟨0, .initRef 8⟩, ⟨1, .acquire 8⟩, ⟨2, .wait 8⟩, ⟨3, .acquire 8⟩, ⟨1, .release 8⟩, ⟨2, .wake 8⟩]

theorem waitForRelease_admissible : Guarded step Admissible State.init waitForRelease :=
  guarded_of_check (by decide)

theorem waitForRelease_protocol :
    ∃ s, exec step State.init waitForRelease = some s ∧
      s.log = [.waitReturned 8, .released 8, .acquired 8 false, .waitStarted 8, .acquired 8 true,
        .initialized 8] ∧
      ∀ a s', Admissible s a → step s a = some s' → CallSpec s a s' :=
  ⟨_, rfl, rfl, (rundown_protection_protocol waitForRelease_admissible rfl).2⟩

end Usersim.Rundown
