import Usersim.Semaphore.Basic

/-!
# Reading the state of a semaphore

While a read holds a unit, the count of the OS semaphore is one too small. Whoever sees it then,
sees that: a wait that finds nothing times out, and a release returns it. In the runs where nobody
does, the history is that of a counting semaphore whose count reads leave alone.

* `linearizable_of_undisturbed` — the history of such a run is linearizable
* `undisturbed_iff` — otherwise, a step of the OS gives another result than the counting semaphore
-/

namespace Usersim.Semaphore

open Lib

variable {count limit : Nat} {s s' : State} {a : Action} {t u : Tid}
  {order order' : List (Linearized CallId Call Result)}

/-! ## The steps, one by one -/

/-- The branches of `step` that are enabled. -/
inductive Step (s : State) : Action → State → Prop
  | call {t : Tid} {call : Call} (hpc : s.pc t = .idle) :
    Step s (.call t call) { s.setPc t (.called call) with
      history := s.history ++ [.invoke (t, s.calls t) call] }
  | readEmpty {t : Tid} (hpc : s.pc t = .called .keReadStateSemaphore) (hcount : s.count = 0) :
    Step s (.access t) (s.setPc t (.returning (.state 0)))
  | readTakes {t : Tid} (hpc : s.pc t = .called .keReadStateSemaphore) (hcount : 0 < s.count) :
    Step s (.access t)
      { s.setPc t .taken with count := s.count - 1, borrowers := t :: s.borrowers }
  | waitTimesOut {t : Tid} (hpc : s.pc t = .called .keWaitForSingleObject) (hcount : s.count = 0) :
    Step s (.access t) (s.setPc t (.returning .statusTimeout))
  | waitSucceeds {t : Tid} (hpc : s.pc t = .called .keWaitForSingleObject) (hcount : 0 < s.count) :
    Step s (.access t) { s.setPc t (.returning .statusSuccess) with count := s.count - 1 }
  | releases {t : Tid} {adjustment : Nat} (hpc : s.pc t = .called (.keReleaseSemaphore adjustment))
    (hpos : 0 < adjustment) (hlimit : s.semaphoreCount + adjustment ≤ s.limit) :
    Step s (.access t) { s.setPc t (.returning (.previousCount s.count)) with
      count := s.count + adjustment }
  | givesBack {t : Tid} (hpc : s.pc t = .taken) : Step s (.access t) (s.giveBack t)
  | returns {t : Tid} {result : Result} (hpc : s.pc t = .returning result) :
    Step s (.returns t) { s.setPc t .idle with
      calls := Function.update s.calls t (s.calls t + 1)
      history := s.history ++ [.respond (t, s.calls t) result] }

theorem access_cases {call : Call} (hpc : s.pc t = .called call) (h : s.access t call = some s') :
    Step s (.access t) s' := by
  cases call with
  | keReadStateSemaphore =>
    rw [State.access, waitForSingleObject] at h
    by_cases hcount : s.count = 0
    · rw [if_pos hcount] at h
      cases h
      exact .readEmpty hpc hcount
    · rw [if_neg hcount] at h
      cases h
      exact .readTakes hpc (Nat.pos_of_ne_zero hcount)
  | keWaitForSingleObject =>
    rw [State.access, waitForSingleObject] at h
    by_cases hcount : s.count = 0
    · rw [if_pos hcount] at h
      cases h
      exact .waitTimesOut hpc hcount
    · rw [if_neg hcount] at h
      cases h
      exact .waitSucceeds hpc (Nat.pos_of_ne_zero hcount)
  | keReleaseSemaphore adjustment =>
    rw [State.access, releaseSemaphore] at h
    by_cases hlimit : s.semaphoreCount + adjustment ≤ s.limit
    · rw [if_pos hlimit] at h
      by_cases hfits : 0 < adjustment ∧ s.count + adjustment ≤ s.limit
      · rw [if_pos hfits] at h
        cases h
        exact .releases hpc hfits.1 hlimit
      · rw [if_neg hfits] at h
        cases h
    · rw [if_neg hlimit] at h
      cases h

theorem step_cases (h : step s a = some s') : Step s a s' := by
  cases a with
  | call t call =>
    simp only [step, Option.ite_none_right_eq_some, Option.some.injEq] at h
    obtain ⟨hpc, rfl⟩ := h
    exact .call hpc
  | access t =>
    rw [step] at h
    cases hpc : s.pc t with
    | idle => simp [hpc] at h
    | called call => exact access_cases hpc (by simpa [hpc] using h)
    | taken =>
      simp only [hpc, Option.some.injEq] at h
      exact h ▸ .givesBack hpc
    | returning result => simp [hpc] at h
  | returns t =>
    rw [step] at h
    cases hpc : s.pc t with
    | idle => simp [hpc] at h
    | called call => simp [hpc] at h
    | taken => simp [hpc] at h
    | returning result =>
      simp only [hpc, Option.some.injEq] at h
      exact h ▸ .returns hpc

/-! ## The order of the calls -/

/-- The call has taken effect, with the result. -/
def Answered (order : List (Linearized CallId Call Result)) (i : CallId) (result : Result) : Prop :=
  ∃ e ∈ order, e.id = i ∧ e.result = result

/-- What is known of the current call of a thread. -/
def Current (s : State) (order : List (Linearized CallId Call Result)) (t : Tid) : Pc → Prop
  | .idle => True
  | .called call =>
    .invoke (t, s.calls t) call ∈ s.history ∧ ∀ e ∈ order, e.id ≠ (t, s.calls t)
  | .taken => t ∈ s.borrowers ∧ Answered order (t, s.calls t) (.state 1)
  | .returning result => Answered order (t, s.calls t) result

/-- The order explains what has happened; a read takes effect when it takes the unit. -/
structure Explained (count limit : Nat) (s : State)
    (order : List (Linearized CallId Call Result)) : Prop where
  limit_eq : s.limit = limit
  within : s.semaphoreCount ≤ limit
  linearizes : Linearizes (semaphoreSpec limit) count s.history order s.semaphoreCount
  numbered : ∀ t n call, .invoke (t, n) call ∈ s.history →
    n < s.calls t ∨ n = s.calls t ∧ s.pc t ≠ .idle
  current : ∀ t, Current s order t (s.pc t)

theorem explained_init (h : count ≤ limit) : Explained count limit (.init count limit) [] where
  limit_eq := rfl
  within := h
  linearizes := .nil
  numbered := fun _ _ _ h => absurd h List.not_mem_nil
  current := fun _ => trivial

theorem Answered.mono {i : CallId} {result : Result} (h : Answered order i result)
    (horder : ∀ e ∈ order, e ∈ order') : Answered order' i result := by
  obtain ⟨e, he, heq⟩ := h
  exact ⟨e, horder e he, heq⟩

/-- A step of another thread. -/
theorem Current.of_other {pc : Pc} (h : Current s order u pc) (hcalls : s'.calls u = s.calls u)
    (hhistory : ∀ e ∈ s.history, e ∈ s'.history) (hborrowers : u ∈ s.borrowers → u ∈ s'.borrowers)
    (horder : ∀ e ∈ order, e ∈ order') (hnew : ∀ e ∈ order', e ∈ order ∨ e.id.1 ≠ u) :
    Current s' order' u pc := by
  cases pc with
  | idle => trivial
  | called call =>
    refine ⟨by rw [hcalls]; exact hhistory _ h.1, fun e he hid => ?_⟩
    rw [hcalls] at hid
    rcases hnew e he with hold | hother
    · exact h.2 e hold hid
    · exact hother (congrArg Prod.fst hid)
  | taken => exact ⟨hborrowers h.1, by rw [hcalls]; exact h.2.mono horder⟩
  | returning result =>
    show Answered order' (u, s'.calls u) result
    rw [hcalls]
    exact Answered.mono h horder

/-! ## The steps keep an order -/

/-- A step of `t` leaves the other threads where they are. -/
theorem Explained.move {pc : Pc} (hi : Explained count limit s order)
    (hpc : s'.pc = Function.update s.pc t pc) (hlimit : s'.limit = s.limit)
    (hwithin : s'.semaphoreCount ≤ limit)
    (hlinearizes : Linearizes (semaphoreSpec limit) count s'.history order' s'.semaphoreCount)
    (hcalls : ∀ u, u ≠ t → s'.calls u = s.calls u)
    (hhistory : ∀ e ∈ s.history, e ∈ s'.history)
    (hinvoked : ∀ u, u ≠ t → ∀ n call, .invoke (u, n) call ∈ s'.history →
      .invoke (u, n) call ∈ s.history)
    (hborrowers : ∀ u, u ≠ t → u ∈ s.borrowers → u ∈ s'.borrowers)
    (horder : ∀ e ∈ order, e ∈ order') (hnew : ∀ e ∈ order', e ∈ order ∨ e.id.1 = t)
    (hnumbered : ∀ n call, .invoke (t, n) call ∈ s'.history →
      n < s'.calls t ∨ n = s'.calls t ∧ pc ≠ .idle)
    (hcurrent : Current s' order' t pc) : Explained count limit s' order' where
  limit_eq := hlimit.trans hi.limit_eq
  within := hwithin
  linearizes := hlinearizes
  numbered := by
    intro u n call hmem
    rw [hpc]
    by_cases hu : u = t
    · subst hu
      rw [Function.update_self]
      exact hnumbered n call hmem
    · rw [Function.update_of_ne hu, hcalls u hu]
      exact hi.numbered u n call (hinvoked u hu n call hmem)
  current := by
    intro u
    rw [hpc]
    by_cases hu : u = t
    · subst hu
      rw [Function.update_self]
      exact hcurrent
    · rw [Function.update_of_ne hu]
      exact (hi.current u).of_other (hcalls u hu) hhistory (hborrowers u hu) horder fun e he =>
        (hnew e he).imp_right fun h h' => hu (h'.symm.trans h)

theorem Explained.not_invoked (hi : Explained count limit s order) (hpc : s.pc t = .idle)
    (call : Call) : .invoke (t, s.calls t) call ∉ s.history := by
  intro hmem
  rcases hi.numbered t _ call hmem with hlt | ⟨-, hbusy⟩
  · exact absurd hlt (Nat.lt_irrefl _)
  · exact hbusy hpc

theorem Explained.call {call : Call} (hi : Explained count limit s order) (hpc : s.pc t = .idle) :
    Explained count limit { s.setPc t (.called call) with
      history := s.history ++ [.invoke (t, s.calls t) call] } order := by
  refine hi.move rfl rfl hi.within (hi.linearizes.invoke (hi.not_invoked hpc) call)
    (fun _ _ => rfl) (fun e he => List.mem_append_left _ he) (fun u hu n call' hmem => ?_)
    (fun _ _ h => h) (fun e he => he) (fun e he => .inl he) (fun n call' hmem => ?_) ?_
  · rcases List.mem_append.mp hmem with hmem | hmem
    · exact hmem
    · obtain ⟨hid, -⟩ := CallEvent.invoke.inj (List.mem_singleton.mp hmem)
      exact absurd (congrArg Prod.fst hid) hu
  · rcases List.mem_append.mp hmem with hmem | hmem
    · exact (hi.numbered t n call' hmem).imp_right fun h => absurd hpc h.2
    · obtain ⟨hid, -⟩ := CallEvent.invoke.inj (List.mem_singleton.mp hmem)
      exact .inr ⟨congrArg Prod.snd hid, nofun⟩
  · refine ⟨List.mem_append_right _ (List.mem_singleton_self _), fun e he hid => ?_⟩
    have hinvoked := hi.linearizes.invoked e he
    rw [hid] at hinvoked
    exact hi.not_invoked hpc e.op hinvoked

theorem semaphoreSpec_read {c : Nat} (h : 0 < c) :
    semaphoreSpec limit c .keReadStateSemaphore = some (c, .state 1) := by
  rw [semaphoreSpec, if_neg (Nat.ne_of_gt h)]

theorem semaphoreSpec_wait {c : Nat} (h : 0 < c) :
    semaphoreSpec limit c .keWaitForSingleObject = some (c - 1, .statusSuccess) := by
  rw [semaphoreSpec, if_neg (Nat.ne_of_gt h)]

theorem semaphoreSpec_release {c adjustment : Nat} (hpos : 0 < adjustment)
    (h : c + adjustment ≤ limit) :
    semaphoreSpec limit c (.keReleaseSemaphore adjustment) =
      some (c + adjustment, .previousCount c) := by
  rw [semaphoreSpec, if_pos ⟨hpos, h⟩]

theorem semaphoreCount_eq_zero (hcount : s.count = 0) (hborrowers : s.borrowers = []) :
    s.semaphoreCount = 0 := by
  rw [State.semaphoreCount, hcount, hborrowers]
  rfl

theorem semaphoreCount_pos (h : 0 < s.count) : 0 < s.semaphoreCount := Nat.add_pos_left h _

theorem semaphoreCount_pos_of_borrowers (h : s.borrowers ≠ []) : 0 < s.semaphoreCount :=
  Nat.add_pos_right _ (List.length_pos_iff.mpr h)

theorem semaphoreSpec_le {c c' : Nat} {call : Call} {result : Result} (hle : c ≤ limit)
    (h : semaphoreSpec limit c call = some (c', result)) : c' ≤ limit := by
  cases call with
  | keReadStateSemaphore =>
    cases h
    exact hle
  | keWaitForSingleObject =>
    rw [semaphoreSpec] at h
    split at h <;> cases h <;> omega
  | keReleaseSemaphore adjustment =>
    rw [semaphoreSpec] at h
    split at h
    · rename_i hfits
      cases h
      exact hfits.2
    · cases h

/-- A call takes effect: the step does what the counting semaphore does. -/
theorem Explained.commit {call : Call} {pc : Pc} {r : Result} (hi : Explained count limit s order)
    (hpc : s.pc t = .called call)
    (hspec : semaphoreSpec limit s.semaphoreCount call = some (s'.semaphoreCount, r))
    (hlimit : s'.limit = s.limit) (hhistory : s'.history = s.history) (hcalls : s'.calls = s.calls)
    (hpc' : s'.pc = Function.update s.pc t pc) (hbusy : pc ≠ .idle)
    (hborrowers : ∀ u, u ∈ s.borrowers → u ∈ s'.borrowers)
    (hcurrent : Answered (order ++ [⟨(t, s.calls t), call, r⟩]) (t, s.calls t) r →
      Current s' (order ++ [⟨(t, s.calls t), call, r⟩]) t pc) :
    Explained count limit s' (order ++ [⟨(t, s.calls t), call, r⟩]) := by
  have hcalled : Current s order t (.called call) := hpc ▸ hi.current t
  refine hi.move hpc' hlimit (semaphoreSpec_le hi.within hspec) ?_
    (fun u _ => congrFun hcalls u) (fun e he => hhistory ▸ he) (fun u _ n call' hmem => ?_)
    (fun u _ => hborrowers u) (fun e he => List.mem_append_left _ he) (fun e he => ?_)
    (fun n call' hmem => ?_)
    (hcurrent ⟨_, List.mem_append_right _ (List.mem_singleton_self _), rfl, rfl⟩)
  · rw [hhistory]
    exact hi.linearizes.commit hcalled.1 hcalled.2 hspec
  · rwa [hhistory] at hmem
  · refine (List.mem_append.mp he).imp_right fun he => ?_
    rw [List.mem_singleton.mp he]
  · rw [hhistory] at hmem
    rw [hcalls]
    exact (hi.numbered t n call' hmem).imp_right fun h => ⟨h.1, hbusy⟩

/-- The unit fits again, since it was counted all the time. -/
theorem giveBack_eq (hmem : t ∈ s.borrowers) (hwithin : s.semaphoreCount ≤ s.limit) :
    s.giveBack t = { s.setPc t (.returning (.state 1)) with
      count := s.count + 1, borrowers := s.borrowers.erase t } := by
  have hpos : 0 < s.borrowers.length := List.length_pos_of_mem hmem
  have hrelease : releaseSemaphore s.limit s.count 1 = some (s.count + 1, s.count) := by
    rw [releaseSemaphore, if_pos]
    unfold State.semaphoreCount at hwithin
    omega
  rw [State.giveBack, hrelease]

theorem Explained.giveBack (hi : Explained count limit s order) (hpc : s.pc t = .taken) :
    Explained count limit (s.giveBack t) order := by
  have htaken : Current s order t .taken := hpc ▸ hi.current t
  have hpos : 0 < s.borrowers.length := List.length_pos_of_mem htaken.1
  have hcount : s.count + 1 + (s.borrowers.erase t).length = s.semaphoreCount := by
    rw [State.semaphoreCount, List.length_erase_of_mem htaken.1]
    omega
  rw [giveBack_eq htaken.1 (hi.limit_eq ▸ hi.within)]
  refine hi.move rfl rfl ?_ ?_ (fun _ _ => rfl) (fun e he => he) (fun _ _ _ _ hmem => hmem)
    (fun u hu h => (List.mem_erase_of_ne hu).mpr h) (fun e he => he) (fun e he => .inl he)
    (fun n call hmem => ?_) htaken.2
  · show s.count + 1 + (s.borrowers.erase t).length ≤ limit
    rw [hcount]
    exact hi.within
  · show Linearizes _ _ _ _ (s.count + 1 + (s.borrowers.erase t).length)
    rw [hcount]
    exact hi.linearizes
  · exact (hi.numbered t n call hmem).imp_right fun h => ⟨h.1, nofun⟩

theorem Explained.returns {result : Result} (hi : Explained count limit s order)
    (hpc : s.pc t = .returning result) :
    Explained count limit { s.setPc t .idle with
      calls := Function.update s.calls t (s.calls t + 1)
      history := s.history ++ [.respond (t, s.calls t) result] } order := by
  have hreturning : Current s order t (.returning result) := hpc ▸ hi.current t
  obtain ⟨e, he, hid, hresult⟩ := hreturning
  have hold : ∀ u n call, .invoke (u, n) call ∈
      s.history ++ [.respond (t, s.calls t) result] → .invoke (u, n) call ∈ s.history := by
    intro u n call hmem
    rcases List.mem_append.mp hmem with h | h
    · exact h
    · exact nomatch List.mem_singleton.mp h
  refine hi.move rfl rfl hi.within ?_ (fun u hu => Function.update_of_ne hu ..)
    (fun e he => List.mem_append_left _ he) (fun u _ n call => hold u n call) (fun _ _ h => h)
    (fun e he => he) (fun e he => .inl he) (fun n call hmem => ?_) trivial
  · rw [← hid, ← hresult]
    exact hi.linearizes.respond he
  · have hnumber := hi.numbered t n call (hold t n call hmem)
    show n < Function.update s.calls t (s.calls t + 1) t ∨ _
    rw [Function.update_self]
    omega

/-! ## Undisturbed runs -/

/-- A call that gets its result from the OS is not misled by the units that are to be given back. -/
def Undeceived (s : State) : Pc → Prop
  | .called .keReadStateSemaphore | .called .keWaitForSingleObject =>
    s.count = 0 → s.borrowers = []
  | .called (.keReleaseSemaphore _) => s.borrowers = []
  | .idle | .taken | .returning _ => True

instance (s : State) : (pc : Pc) → Decidable (Undeceived s pc)
  | .called .keReadStateSemaphore | .called .keWaitForSingleObject =>
    inferInstanceAs (Decidable (_ → _))
  | .called (.keReleaseSemaphore _) => inferInstanceAs (Decidable (_ = _))
  | .idle | .taken | .returning _ => inferInstanceAs (Decidable True)

/-- No wait and no read finds nothing while a read holds a unit, and nothing is released then. -/
def Undisturbed (s : State) : Action → Prop
  | .access t => Undeceived s (s.pc t)
  | .call .. | .returns _ => True

instance (s : State) : (a : Action) → Decidable (Undisturbed s a)
  | .access t => inferInstanceAs (Decidable (Undeceived s (s.pc t)))
  | .call .. | .returns _ => inferInstanceAs (Decidable True)

/-- The result of a call, once it is fixed. -/
def Pc.answer : Pc → Option Result
  | .idle | .called _ => none
  | .taken => some (.state 1)
  | .returning result => some result

/-- Undisturbed is a step of the OS just if it gives the result of the counting semaphore. -/
theorem undisturbed_iff {call : Call} (hpc : s.pc t = .called call)
    (h : step s (.access t) = some s') :
    Undisturbed s (.access t) ↔
      (s'.pc t).answer = (semaphoreSpec s.limit s.semaphoreCount call).map Prod.snd := by
  rw [Undisturbed, hpc]
  cases step_cases h with
  | readEmpty hpc' hcount =>
    cases hpc.symm.trans hpc'
    by_cases hborrowers : s.borrowers = []
    · rw [semaphoreCount_eq_zero hcount hborrowers]
      exact iff_of_true (fun _ => hborrowers) (by simp [State.setPc, Pc.answer, semaphoreSpec])
    · rw [semaphoreSpec_read (semaphoreCount_pos_of_borrowers hborrowers)]
      exact iff_of_false (fun h => hborrowers (h hcount)) (by simp [State.setPc, Pc.answer])
  | readTakes hpc' hcount =>
    cases hpc.symm.trans hpc'
    rw [semaphoreSpec_read (semaphoreCount_pos hcount)]
    exact iff_of_true (fun h => absurd h (Nat.ne_of_gt hcount)) (by simp [State.setPc, Pc.answer])
  | waitTimesOut hpc' hcount =>
    cases hpc.symm.trans hpc'
    by_cases hborrowers : s.borrowers = []
    · rw [semaphoreCount_eq_zero hcount hborrowers]
      exact iff_of_true (fun _ => hborrowers) (by simp [State.setPc, Pc.answer, semaphoreSpec])
    · rw [semaphoreSpec_wait (semaphoreCount_pos_of_borrowers hborrowers)]
      exact iff_of_false (fun h => hborrowers (h hcount)) (by simp [State.setPc, Pc.answer])
  | waitSucceeds hpc' hcount =>
    cases hpc.symm.trans hpc'
    rw [semaphoreSpec_wait (semaphoreCount_pos hcount)]
    exact iff_of_true (fun h => absurd h (Nat.ne_of_gt hcount)) (by simp [State.setPc, Pc.answer])
  | releases hpc' hpos hlimit =>
    cases hpc.symm.trans hpc'
    rw [semaphoreSpec_release hpos hlimit]
    simp [State.setPc, Pc.answer, Undeceived, State.semaphoreCount]
  | givesBack hpc' => exact nomatch hpc.symm.trans hpc'

theorem Explained.access (hi : Explained count limit s order)
    (hguard : Undisturbed s (.access t)) (h : step s (.access t) = some s') :
    ∃ order', Explained count limit s' order' := by
  rw [Undisturbed] at hguard
  have hlimit := hi.limit_eq
  cases step_cases h with
  | readEmpty hpc hcount =>
    rw [hpc] at hguard
    have hzero := semaphoreCount_eq_zero hcount (hguard hcount)
    refine ⟨_, hi.commit hpc (r := .state 0) ?_ rfl rfl rfl rfl nofun (fun _ h => h) id⟩
    show semaphoreSpec limit s.semaphoreCount _ = some (s.semaphoreCount, _)
    rw [hzero]
    rfl
  | readTakes hpc hcount =>
    refine ⟨_, hi.commit hpc (r := .state 1) ?_ rfl rfl rfl rfl nofun
      (fun _ h => List.mem_cons_of_mem _ h) fun h => ⟨List.mem_cons_self, h⟩⟩
    have hsame : s.count - 1 + (s.borrowers.length + 1) = s.semaphoreCount := by
      rw [State.semaphoreCount]
      omega
    show _ = some (s.count - 1 + (s.borrowers.length + 1), _)
    rw [hsame]
    exact semaphoreSpec_read (semaphoreCount_pos hcount)
  | waitTimesOut hpc hcount =>
    rw [hpc] at hguard
    have hzero := semaphoreCount_eq_zero hcount (hguard hcount)
    refine ⟨_, hi.commit hpc (r := .statusTimeout) ?_ rfl rfl rfl rfl nofun (fun _ h => h) id⟩
    show semaphoreSpec limit s.semaphoreCount _ = some (s.semaphoreCount, _)
    rw [hzero]
    rfl
  | waitSucceeds hpc hcount =>
    refine ⟨_, hi.commit hpc (r := .statusSuccess) ?_ rfl rfl rfl rfl nofun (fun _ h => h) id⟩
    have hless : s.count - 1 + s.borrowers.length = s.semaphoreCount - 1 := by
      rw [State.semaphoreCount]
      omega
    show _ = some (s.count - 1 + s.borrowers.length, _)
    rw [hless]
    exact semaphoreSpec_wait (semaphoreCount_pos hcount)
  | releases hpc hpos hfits =>
    rename_i adjustment
    rw [hpc] at hguard
    have hnone : s.borrowers = [] := hguard
    have hcount : s.semaphoreCount = s.count := by
      rw [State.semaphoreCount, hnone]
      rfl
    have hmore : s.count + adjustment + s.borrowers.length = s.semaphoreCount + adjustment := by
      rw [hcount, hnone]
      rfl
    refine ⟨_, hi.commit hpc (r := .previousCount s.count) ?_ rfl rfl rfl rfl nofun
      (fun _ h => h) id⟩
    show _ = some (s.count + adjustment + s.borrowers.length, _)
    rw [hmore, ← hcount]
    exact semaphoreSpec_release hpos (hlimit ▸ hfits)
  | givesBack hpc => exact ⟨order, hi.giveBack hpc⟩

theorem Explained.step (hi : Explained count limit s order) (hguard : Undisturbed s a)
    (h : step s a = some s') : ∃ order', Explained count limit s' order' := by
  cases a with
  | call t call =>
    cases step_cases h with
    | call hpc => exact ⟨order, hi.call hpc⟩
  | access t => exact hi.access hguard h
  | returns t =>
    cases step_cases h with
    | returns hpc => exact ⟨order, hi.returns hpc⟩

/--
Whatever the threads call and however their steps interleave: in every state of a run in which no
step is disturbed, there is an order of the calls, one after the other and each after those that
returned before it began, in which they return what a counting semaphore does whose count is only
read by `KeReadStateSemaphore`.
-/
theorem linearizable_of_undisturbed (count limit : Nat) (actions : List Action) (s : State)
    (hcount : count ≤ limit) (hrun : exec step (.init count limit) actions = some s)
    (hguard : Guarded step Undisturbed (.init count limit) actions) :
    Linearizable (semaphoreSpec limit) count s.history := by
  have hinv : ∃ order, Explained count limit s order := by
    refine exec_invariant_of_guard (P := fun s => ∃ order, Explained count limit s order) ?_
      ⟨[], explained_init hcount⟩ hguard hrun
    rintro s a s' ⟨order, hi⟩ hg hs'
    exact hi.step hg hs'
  obtain ⟨order, hi⟩ := hinv
  exact ⟨order, _, hi.linearizes⟩

/-- A read and a wait on a semaphore with one unit, the wait after the unit is back. -/
def waitAfterRead : List Action :=
  [.call 0 .keReadStateSemaphore, .call 1 .keWaitForSingleObject, .access 0, .access 0, .access 1,
    .returns 1, .returns 0]

theorem linearizable_of_undisturbed_waitAfterRead :
    ∃ s, exec step (.init 1 2) waitAfterRead = some s ∧
      s.history = [.invoke (0, 0) .keReadStateSemaphore, .invoke (1, 0) .keWaitForSingleObject,
        .respond (1, 0) .statusSuccess, .respond (0, 0) (.state 1)] ∧
      Linearizable (semaphoreSpec 2) 1 s.history := by
  have hrun : ∃ s, exec step (.init 1 2) waitAfterRead = some s ∧
      s.history = [.invoke (0, 0) .keReadStateSemaphore, .invoke (1, 0) .keWaitForSingleObject,
        .respond (1, 0) .statusSuccess, .respond (0, 0) (.state 1)] := exec_of_check (by decide)
  obtain ⟨s, hrun, hhistory⟩ := hrun
  exact ⟨s, hrun, hhistory,
    linearizable_of_undisturbed 1 2 _ s (by decide) hrun (guarded_of_check (by decide))⟩

/-! ## Disturbed runs -/

/-- In a history in which all other calls are reads, a call returns what it does of the semaphore as
it is at the beginning. -/
theorem answer_among_reads {history : List (CallEvent CallId Call Result)} (i : CallId)
    (call : Call) (r : Result) (h : Linearizable (semaphoreSpec limit) count history)
    (hcalls : ∀ j call', .invoke j call' ∈ history →
      j = i ∧ call' = call ∨ j ≠ i ∧ call' = .keReadStateSemaphore)
    (hreturned : .respond i r ∈ history) : ∃ c, semaphoreSpec limit count call = some (c, r) := by
  obtain ⟨order, c, hlin⟩ := h
  obtain ⟨e, he, hid, hresult⟩ := hlin.completed i r hreturned
  have hop : e.op = call := by
    rcases hcalls e.id e.op (hlin.invoked e he) with ⟨-, hop⟩ | ⟨hne, -⟩
    · exact hop
    · exact absurd hid hne
  by_contra hwrong
  -- the call cannot be made with this result, and the reads leave the count alone
  have hmade := hlin.legal.of_const (fun e' he' s₁ hs₁ => ?_) e he
  · rw [hop, hresult] at hmade
    exact hwrong ⟨count, hmade⟩
  · rcases hcalls e'.id e'.op (hlin.invoked e' he') with ⟨hid', hop'⟩ | ⟨-, hop'⟩
    · have heq : e' = e := List.inj_on_of_nodup_map hlin.nodup he' he (hid'.trans hid.symm)
      rw [hop', heq, hresult] at hs₁
      exact absurd ⟨s₁, hs₁⟩ hwrong
    · rw [hop', semaphoreSpec] at hs₁
      exact (Prod.mk.inj (Option.some.inj hs₁)).1.symm

/-- Another call while a read holds a unit. -/
def callDuringRead (call : Call) : List Action :=
  [.call 0 .keReadStateSemaphore, .call 1 call, .access 0, .access 1, .access 0, .returns 0,
    .returns 1]

/-- If that call returns what it does not return of the semaphore as it is at the beginning,
no order explains it. -/
theorem not_linearizable_of_callDuringRead {call : Call} {r : Result}
    (hhistory : s.history = [.invoke (0, 0) .keReadStateSemaphore, .invoke (1, 0) call,
      .respond (0, 0) (.state 1), .respond (1, 0) r])
    (hwrong : ∀ c, semaphoreSpec limit count call ≠ some (c, r)) :
    ¬ Linearizable (semaphoreSpec limit) count s.history := by
  have hcalls : ∀ j call', .invoke j call' ∈ s.history →
      j = (1, 0) ∧ call' = call ∨ j ≠ (1, 0) ∧ call' = .keReadStateSemaphore := by
    intro j call' hmem
    rw [hhistory] at hmem
    simp only [List.mem_cons, CallEvent.invoke.injEq, reduceCtorEq, List.not_mem_nil, or_false]
      at hmem
    rcases hmem with ⟨rfl, rfl⟩ | ⟨rfl, rfl⟩
    · exact .inr ⟨by decide, rfl⟩
    · exact .inl ⟨rfl, rfl⟩
  intro h
  obtain ⟨c, hc⟩ := answer_among_reads (1, 0) call r h hcalls (by simp [hhistory])
  exact hwrong c hc

/-- While a read holds the only unit, a wait times out; while it holds one of two, a release says
that the count was zero. -/
theorem read_seen_by_wait_and_release :
    (∃ s, exec step (.init 1 1) (callDuringRead .keWaitForSingleObject) = some s ∧
      .respond (1, 0) .statusTimeout ∈ s.history ∧
      ¬ Linearizable (semaphoreSpec 1) 1 s.history) ∧
    ∃ s, exec step (.init 1 2) (callDuringRead (.keReleaseSemaphore 1)) = some s ∧
      .respond (1, 0) (.previousCount 0) ∈ s.history ∧
      ¬ Linearizable (semaphoreSpec 2) 1 s.history := by
  constructor
  · have hrun : ∃ s, exec step (.init 1 1) (callDuringRead .keWaitForSingleObject) = some s ∧
        s.history = [.invoke (0, 0) .keReadStateSemaphore, .invoke (1, 0) .keWaitForSingleObject,
          .respond (0, 0) (.state 1), .respond (1, 0) .statusTimeout] := exec_of_check (by decide)
    obtain ⟨s, hrun, hhistory⟩ := hrun
    exact ⟨s, hrun, by simp [hhistory], not_linearizable_of_callDuringRead hhistory nofun⟩
  · have hrun : ∃ s, exec step (.init 1 2) (callDuringRead (.keReleaseSemaphore 1)) = some s ∧
        s.history = [.invoke (0, 0) .keReadStateSemaphore, .invoke (1, 0) (.keReleaseSemaphore 1),
          .respond (0, 0) (.state 1), .respond (1, 0) (.previousCount 0)] :=
      exec_of_check (by decide)
    obtain ⟨s, hrun, hhistory⟩ := hrun
    exact ⟨s, hrun, by simp [hhistory], not_linearizable_of_callDuringRead hhistory nofun⟩

end Usersim.Semaphore
