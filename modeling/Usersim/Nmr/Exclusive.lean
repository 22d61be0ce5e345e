import Usersim.Nmr.Bindings

/-!
# One thread per binding

Runs in which no completion arrives before `begin_unbind` has taken the lock again
(`NoEarlyCompletion`). Then at most one thread is unbinding a binding, the binding is still in
`bindings` while it does, and the statuses say exactly what the two detach callbacks have done.

The invariant is stated for one binding at a time (`BindingSafe`): an action works on one binding
and leaves what is said of all others alone (`BindingSafe.congr`).
-/

namespace Usersim.Nmr

open Lib

/-- Where a thread is in unbinding `b`, if it is. -/
def Op.stageOf (op : Op) (b : BindingId) : Option DetachStage :=
  match op with
  | .beginUnbind _ _ _ _ b' stage => if b' = b then some stage else none
  | .detachComplete b' => if b' = b then some .finish else none
  | _ => none

/-- What a detach callback has left behind. -/
def detachResult (pending : Bool) : Detach := if pending then .pending else .done

/-- The binding as the thread that unbinds it sees it. -/
def StageOk (x : Binding) : DetachStage → Prop
  | .inClient => (∀ y, x.status y = .beginUnbind) ∧ x.detach .client = .running ∧
      x.detach .provider = .notCalled
  | .inProvider clientPending => (∀ y, x.status y = .beginUnbind) ∧
      x.detach .client = detachResult clientPending ∧ x.detach .provider = .running
  | .commit clientPending providerPending => (∀ y, x.status y = .beginUnbind) ∧
      x.detach .client = detachResult clientPending ∧
      x.detach .provider = detachResult providerPending
  | .finish => ∀ y, x.status y = .unbindComplete ∧ x.detach y = .done

/-- The statuses say what the detach callbacks have done. -/
structure StatusOk (live : Prop) (x : Binding) : Prop where
  pending : ∀ side, x.detachStatus side = .unbindPending → x.detach side = .pending
  complete : ∀ side, x.detachStatus side = .unbindComplete → x.detach side = .done
  running : ∀ side, x.detach side = .running → ∀ y, x.status y = .beginUnbind
  notEarly : ∀ side, x.detach side ≠ .completedEarly
  erased : ¬ live → ∀ side, x.detach side = .notCalled ∨ x.detach side = .done
  ready : ∀ y, x.status y = .ready → live

structure BindingSafe (s : State) (b : BindingId) : Prop where
  staged : ∀ t stage, (s.ops t).stageOf b = some stage →
    b ∈ s.bindings ∧ StageOk (s.binding b) stage
  unique : ∀ t u, (s.ops t).stageOf b ≠ none → (s.ops u).stageOf b ≠ none → t = u
  status : StatusOk (b ∈ s.bindings) (s.binding b)

def Exclusive (s : State) : Prop := ∀ b, BindingSafe s b

variable {s s' : State} {a : Action} {t : Tid} {op : Op} {b : BindingId}

theorem statusOk_new {live : Prop} {x : Binding} (hs : ∀ y, x.status y = .start)
    (hd : ∀ y, x.detach y = .notCalled) : StatusOk live x := by
  refine ⟨?_, ?_, ?_, ?_, ?_, ?_⟩
  · intro side h
    rw [Binding.detachStatus, hs] at h
    cases h
  · intro side h
    rw [Binding.detachStatus, hs] at h
    cases h
  · intro side h
    rw [hd] at h
    cases h
  · intro side h
    rw [hd] at h
    cases h
  · intro _ side
    exact Or.inl (hd side)
  · intro y h
    rw [hs] at h
    cases h

theorem exclusive_init : Exclusive State.init := by
  intro b
  refine ⟨?_, ?_, statusOk_new (fun _ => rfl) fun _ => rfl⟩
  · intro t stage h
    cases h
  · intro t u h
    exact absurd rfl h

theorem stageOf_unbinds : op.stageOf b ≠ none ↔ op.Unbinds b := by
  cases op with
  | beginUnbind side h pending todo b' stage =>
    rw [unbinds_detaching]
    by_cases hb : b' = b
    · simp [Op.stageOf, hb]
    · simp [Op.stageOf, hb, Ne.symm hb]
  | detachComplete b' =>
    by_cases hb : b' = b
    · simp [Op.stageOf, Op.Unbinds, Op.finishing, hb]
    · simp [Op.stageOf, Op.Unbinds, Op.finishing, Op.detaching, hb]
  | _ => simp [Op.stageOf, Op.Unbinds, Op.finishing, Op.detaching]

/-- A binding in `Start` or `Ready` has had none of its detach callbacks called. -/
theorem Bindings.not_called (hb : Bindings s) (hn : ¬ (s.binding b).Begun) (side : Side) :
    (s.binding b).detach side = .notCalled := by
  by_contra h
  exact hn (hb.detached b side h)

/-- A thread unbinds only what is still there. -/
theorem Exclusive.working (hx : Exclusive s) (hu : (s.ops t).Unbinds b) : b ∈ s.bindings := by
  obtain ⟨stage, hst⟩ := Option.ne_none_iff_exists'.mp (stageOf_unbinds.mpr hu)
  exact ((hx b).staged t stage hst).1

/-! ## Changing one binding -/

/-- What is said of a binding depends on its entry, its statuses and the threads that unbind it. -/
theorem BindingSafe.congr (h : BindingSafe s b)
    (hops : ∀ u, (s'.ops u).stageOf b = (s.ops u).stageOf b)
    (hmem : b ∈ s'.bindings ↔ b ∈ s.bindings) (hst : (s'.binding b).status = (s.binding b).status)
    (hd : (s'.binding b).detach = (s.binding b).detach) : BindingSafe s' b := by
  have hok : ∀ stage, StageOk (s.binding b) stage → StageOk (s'.binding b) stage := by
    intro stage hok
    cases stage <;> simp only [StageOk, hst, hd] at hok ⊢ <;> exact hok
  refine ⟨?_, ?_, ?_⟩
  · intro t stage hs
    rw [hops] at hs
    obtain ⟨hm, hs⟩ := h.staged t stage hs
    exact ⟨hmem.mpr hm, hok stage hs⟩
  · intro t u ht hu
    rw [hops] at ht hu
    exact h.unique t u ht hu
  · obtain ⟨hp, hc, hr, he, hg, hl⟩ := h.status
    unfold Binding.detachStatus at hp hc
    refine ⟨?_, ?_, ?_, ?_, ?_, ?_⟩ <;> simp only [Binding.detachStatus, hst, hd, hmem] <;>
      assumption

/-- Thread `t` is the one that unbinds the binding, and it is at `stage`. -/
theorem bindingSafe_owned {stage : DetachStage} (hops : s'.ops = Function.update s.ops t op)
    (hothers : ∀ u, u ≠ t → (s.ops u).stageOf b = none) (hst : op.stageOf b = some stage)
    (hm : b ∈ s'.bindings) (hok : StageOk (s'.binding b) stage)
    (hstatus : StatusOk (b ∈ s'.bindings) (s'.binding b)) : BindingSafe s' b := by
  have honly : ∀ u, (s'.ops u).stageOf b ≠ none → u = t := by
    intro u hu
    by_contra hut
    rw [hops, Function.update_of_ne hut] at hu
    exact hu (hothers u hut)
  refine ⟨?_, ?_, hstatus⟩
  · intro u st hu
    have hut : u = t := honly u (by rw [hu]; simp)
    rw [hut, hops, Function.update_self, hst] at hu
    cases hu
    exact ⟨hm, hok⟩
  · intro u v hu hv
    rw [honly u hu, honly v hv]

/-- No thread unbinds the binding. -/
theorem bindingSafe_free (hops : s'.ops = Function.update s.ops t op)
    (hothers : ∀ u, u ≠ t → (s.ops u).stageOf b = none) (hst : op.stageOf b = none)
    (hstatus : StatusOk (b ∈ s'.bindings) (s'.binding b)) : BindingSafe s' b := by
  have hnone : ∀ u, (s'.ops u).stageOf b = none := by
    intro u
    by_cases hut : u = t
    · rw [hut, hops, Function.update_self]
      exact hst
    · rw [hops, Function.update_of_ne hut]
      exact hothers u hut
  refine ⟨?_, ?_, hstatus⟩
  · intro u st hu
    rw [hnone] at hu
    cases hu
  · intro u v hu
    exact absurd (hnone u) hu

/-- Nobody else unbinds a binding that one thread unbinds. -/
theorem BindingSafe.others (h : BindingSafe s b) (ht : (s.ops t).stageOf b ≠ none) (u : Tid)
    (hu : u ≠ t) : (s.ops u).stageOf b = none := by
  by_contra hn
  exact hu (h.unique u t hn ht)

theorem Bindings.no_stage (hb : Bindings s) (hn : ¬ (s.binding b).Begun) (u : Tid) :
    (s.ops u).stageOf b = none := by
  by_contra h
  exact hn (hb.begun u b (stageOf_unbinds.mp h))

theorem not_begun_of_status {x : Binding} {y : Side}
    (h : x.status y = .start ∨ x.status y = .ready) : ¬ x.Begun := by
  intro hb
  rcases h with h | h
  · exact (hb y).1 h
  · exact (hb y).2 h

/-- What the thread that unbinds a binding sees is in order. -/
theorem StageOk.statusOk {x : Binding} {stage : DetachStage} {live : Prop} (hok : StageOk x stage)
    (hlive : live) : StatusOk live x := by
  have hresult : ∀ pending, detachResult pending ≠ .completedEarly := by
    intro pending
    cases pending <;> decide
  have hbegin : (∀ y, x.status y = .beginUnbind) → (∀ y, x.detach y ≠ .completedEarly) →
      StatusOk live x := by
    intro hst hd
    refine ⟨?_, ?_, fun _ _ => hst, hd, fun hn => absurd hlive hn, fun _ _ => hlive⟩
    · intro side h
      rw [Binding.detachStatus, hst] at h
      cases h
    · intro side h
      rw [Binding.detachStatus, hst] at h
      cases h
  cases stage with
  | inClient =>
    obtain ⟨hst, hc, hp⟩ := hok
    refine hbegin hst ?_
    intro y
    cases y
    · rw [hc]
      simp
    · rw [hp]
      simp
  | inProvider clientPending =>
    obtain ⟨hst, hc, hp⟩ := hok
    refine hbegin hst ?_
    intro y
    cases y
    · rw [hc]
      exact hresult _
    · rw [hp]
      simp
  | commit clientPending providerPending =>
    obtain ⟨hst, hc, hp⟩ := hok
    refine hbegin hst ?_
    intro y
    cases y
    · rw [hc]
      exact hresult _
    · rw [hp]
      exact hresult _
  | finish =>
    refine ⟨?_, fun side _ => (hok side).2, ?_, ?_, fun hn => absurd hlive hn, fun _ _ => hlive⟩
    · intro side h
      rw [Binding.detachStatus, (hok _).1] at h
      cases h
    · intro side h
      rw [(hok side).2] at h
      cases h
    · intro side h
      rw [(hok side).2] at h
      cases h

/-- What `unbind_complete` leaves behind. -/
theorem statusOk_erased {x : Binding} {live : Prop} (hok : StageOk x .finish) :
    StatusOk live x := by
  obtain ⟨hp, hc, hr, he, -, -⟩ := hok.statusOk trivial
  refine ⟨hp, hc, hr, he, fun _ side => Or.inr (hok side).2, ?_⟩
  intro y h
  rw [(hok y).1] at h
  cases h

/-! ## The detach callbacks -/

theorem callProviderDetach_stageOk (s : State) (b : BindingId) (clientPending : Bool)
    (hst : ∀ y, (s.binding b).status y = .beginUnbind)
    (hc : (s.binding b).detach .client = detachResult clientPending) :
    StageOk ((callProviderDetach s b clientPending).1.binding b)
      (callProviderDetach s b clientPending).2 := by
  unfold callProviderDetach
  split
  · simp [StageOk, Binding.setDetach, hst, hc]
  · simp [StageOk, Binding.setDetach, hst, hc, detachResult]

theorem callClientDetach_stageOk (s : State) (b : BindingId)
    (hst : ∀ y, (s.binding b).status y = .beginUnbind)
    (hp : (s.binding b).detach .provider = .notCalled) :
    StageOk ((callClientDetach s b).1.binding b) (callClientDetach s b).2 := by
  unfold callClientDetach
  split
  · simp [StageOk, Binding.setDetach, hst, hp]
  · refine callProviderDetach_stageOk _ b false ?_ ?_
    · intro y
      simp [Binding.setDetach, hst]
    · simp [Binding.setDetach, detachResult]

/-- The second critical section of `begin_unbind` turns the results of the callbacks into
statuses. -/
theorem Binding.commit_status {x : Binding} {clientPending providerPending : Bool}
    (hok : StageOk x (.commit clientPending providerPending)) :
    (x.commit clientPending providerPending).detachStatus .client =
        (if clientPending then .unbindPending else .unbindComplete) ∧
      (x.commit clientPending providerPending).detachStatus .provider =
        (if providerPending then .unbindPending else .unbindComplete) := by
  obtain ⟨hst, -, -⟩ := hok
  simp [Binding.detachStatus, Binding.commit, Side.other, commitStatus, hst]

theorem Binding.commit_statusOk {x : Binding} {clientPending providerPending : Bool} {live : Prop}
    (hok : StageOk x (.commit clientPending providerPending)) (hlive : live) :
    StatusOk live (x.commit clientPending providerPending) := by
  obtain ⟨hcs, hps⟩ := Binding.commit_status hok
  obtain ⟨-, hc, hp⟩ := hok
  have hdc : (x.commit clientPending providerPending).detach .client =
      detachResult clientPending := hc
  have hdp : (x.commit clientPending providerPending).detach .provider =
      detachResult providerPending := hp
  refine ⟨?_, ?_, ?_, ?_, fun hn => absurd hlive hn, fun _ _ => hlive⟩
  · intro side h
    cases side
    · rw [hdc]
      cases clientPending <;> simp_all [detachResult]
    · rw [hdp]
      cases providerPending <;> simp_all [detachResult]
  · intro side h
    cases side
    · rw [hdc]
      cases clientPending <;> simp_all [detachResult]
    · rw [hdp]
      cases providerPending <;> simp_all [detachResult]
  · intro side h
    cases side
    · rw [hdc] at h
      cases clientPending <;> cases h
    · rw [hdp] at h
      cases providerPending <;> cases h
  · intro side h
    cases side
    · rw [hdc] at h
      cases clientPending <;> cases h
    · rw [hdp] at h
      cases providerPending <;> cases h

theorem Binding.commit_complete {x : Binding} {clientPending providerPending : Bool}
    (hok : StageOk x (.commit clientPending providerPending))
    (hc : (x.commit clientPending providerPending).isComplete = true) :
    StageOk (x.commit clientPending providerPending) .finish := by
  have hstatus := Binding.commit_statusOk hok trivial
  simp only [Binding.isComplete, Bool.and_eq_true, decide_eq_true_eq] at hc
  intro y
  cases y
  · exact ⟨hc.1, hstatus.complete .client hc.2⟩
  · exact ⟨hc.2, hstatus.complete .provider hc.1⟩

/-! ## Every action -/

/-- No completion takes the lock between the two critical sections of `begin_unbind`. -/
def NoEarlyCompletion (s : State) : Action → Prop
  | .detachComplete _ _ b => ∀ y, (s.binding b).status y ≠ .beginUnbind
  | _ => True

/-- A completion that is not early finds the binding, with the detach pending that it completes,
and nobody else at work on it. -/
theorem Exclusive.completion (h : Exclusive s) (hb : Bindings s) {side : Side}
    (hn : ∀ y, (s.binding b).status y ≠ .beginUnbind)
    (hd : (s.binding b).detach side = .running ∨ (s.binding b).detach side = .pending) :
    b ∈ s.bindings ∧ (s.binding b).detach side = .pending ∧
      (s.binding b).detachStatus side = .unbindPending ∧ (s.binding b).Settled ∧
      ∀ u, (s.ops u).stageOf b = none := by
  have hpending : (s.binding b).detach side = .pending := by
    refine hd.resolve_left ?_
    intro hr
    exact hn side ((h b).status.running side hr side)
  have hmem : b ∈ s.bindings := by
    by_contra hm
    rcases (h b).status.erased hm side with he | he <;> rw [hpending] at he <;> cases he
  have hbeg : (s.binding b).Begun := hb.detached b side (by rw [hpending]; simp)
  have hfree : ∀ u, (s.ops u).stageOf b = none := by
    intro u
    by_contra hu
    obtain ⟨stage, hu⟩ := Option.ne_none_iff_exists'.mp hu
    obtain ⟨-, hok⟩ := (h b).staged u stage hu
    cases stage with
    | finish =>
      rw [(hok side).2] at hpending
      cases hpending
    | _ => exact hn side (hok.1 side)
  have hset : (s.binding b).Settled := by
    rcases hb.cover b hmem with hr | hs | ⟨u, hu⟩ | ⟨u, hu⟩
    · exact absurd (hr side) (hbeg side).2
    · exact hs
    · exact absurd hu (hb.not_attaching hbeg u)
    · exact absurd (hfree u) (stageOf_unbinds.mpr hu)
  refine ⟨hmem, hpending, ?_, hset, hfree⟩
  have hcases : (s.binding b).detachStatus side = .unbindPending ∨
      (s.binding b).detachStatus side = .unbindComplete := by
    obtain ⟨y, hy, ho⟩ := hset
    rcases side.eq_or_eq_other y with rfl | rfl
    · exact ho
    · exact Or.inl hy
  refine hcases.resolve_right ?_
  intro hc
  rw [(h b).status.complete side hc] at hpending
  cases hpending

/-- What the completion of a pending detach leaves behind. -/
theorem StatusOk.completed {x : Binding} {live : Prop} (h : StatusOk live x) (side : Side)
    (hlive : live) (hset : x.Settled) :
    StatusOk live { x with
      status := Function.update x.status side.other .unbindComplete
      detach := Function.update x.detach side .done } := by
  have hne : side ≠ side.other := side.ne_other
  have hother : x.detachStatus side.other = x.status side := by
    cases side <;> rfl
  -- neither side is between the critical sections any more
  have hstat : ∀ y, x.status y ≠ .beginUnbind := by
    intro y hy
    obtain ⟨z, hz, ho⟩ := hset
    rcases z.eq_or_eq_other y with rfl | rfl
    · rw [hy] at hz
      cases hz
    · rw [hy] at ho
      rcases ho with ho | ho <;> cases ho
  refine ⟨?_, ?_, ?_, ?_, fun hn => absurd hlive hn, fun _ _ => hlive⟩
  · intro y hy
    rcases side.eq_or_eq_other y with rfl | rfl
    · simp [Binding.detachStatus] at hy
    · have hy' : x.detachStatus side.other = .unbindPending := by
        rw [hother]
        cases side <;> simpa [Binding.detachStatus, Side.other] using hy
      show Function.update x.detach side .done side.other = .pending
      rw [Function.update_of_ne hne.symm]
      exact h.pending _ hy'
  · intro y hy
    show Function.update x.detach side .done y = .done
    rcases side.eq_or_eq_other y with rfl | rfl
    · exact Function.update_self ..
    · have hy' : x.detachStatus side.other = .unbindComplete := by
        rw [hother]
        cases side <;> simpa [Binding.detachStatus, Side.other] using hy
      rw [Function.update_of_ne hne.symm]
      exact h.complete _ hy'
  · intro y hy
    rcases side.eq_or_eq_other y with rfl | rfl
    · simp at hy
    · have hy' : x.detach side.other = .running := by simpa [hne.symm] using hy
      exact absurd (h.running _ hy' side) (hstat side)
  · intro y hy
    rcases side.eq_or_eq_other y with rfl | rfl
    · simp at hy
    · exact h.notEarly side.other (by simpa [hne.symm] using hy)

/-- An action on handles and calls only. -/
theorem Exclusive.quiet (h : Exclusive s) (hops : s'.ops = Function.update s.ops t op)
    (hb : s'.bindings = s.bindings) (hbinding : s'.binding = s.binding)
    (hst : ∀ b, op.stageOf b = (s.ops t).stageOf b) : Exclusive s' := by
  intro b
  refine (h b).congr ?_ (by rw [hb]) (by rw [hbinding]) (by rw [hbinding])
  intro u
  rw [hops]
  by_cases hu : u = t
  · rw [hu, Function.update_self]
    exact hst b
  · rw [Function.update_of_ne hu]

/-- An action on one binding. -/
theorem Exclusive.touch (h : Exclusive s) {x : Binding}
    (hops : s'.ops = Function.update s.ops t op)
    (hbinding : s'.binding = Function.update s.binding b x)
    (hmem : ∀ b', b' ≠ b → (b' ∈ s'.bindings ↔ b' ∈ s.bindings))
    (hst : ∀ b', b' ≠ b → op.stageOf b' = (s.ops t).stageOf b')
    (hsafe : BindingSafe s' b) : Exclusive s' := by
  intro b'
  by_cases hbb : b' = b
  · rw [hbb]
    exact hsafe
  · have hsame : s'.binding b' = s.binding b' := by rw [hbinding, Function.update_of_ne hbb]
    refine (h b').congr ?_ (hmem b' hbb) (by rw [hsame]) (by rw [hsame])
    intro u
    rw [hops]
    by_cases hu : u = t
    · rw [hu, Function.update_self]
      exact hst b' hbb
    · rw [Function.update_of_ne hu]

/-- An action that changes no status. -/
theorem Exclusive.amend (h : Exclusive s) {x : Binding}
    (hops : s'.ops = Function.update s.ops t op)
    (hbinding : s'.binding = Function.update s.binding b x) (hb : s'.bindings = s.bindings)
    (hx : x.status = (s.binding b).status) (hd : x.detach = (s.binding b).detach)
    (hst : ∀ b', op.stageOf b' = (s.ops t).stageOf b') : Exclusive s' := by
  refine h.touch hops hbinding (fun _ _ => by rw [hb]) (fun b' _ => hst b') ?_
  refine (h b).congr ?_ (by rw [hb]) ?_ ?_
  · intro u
    rw [hops]
    by_cases hu : u = t
    · rw [hu, Function.update_self]
      exact hst b
    · rw [Function.update_of_ne hu]
  · rw [hbinding, Function.update_self]
    exact hx
  · rw [hbinding, Function.update_self]
    exact hd

theorem Exclusive.bindAll {side : Side} {hd : Handle} (targets : List Handle) (h : Exclusive s)
    (hnew : ∀ b, s.nextBinding ≤ b → b ∉ s.bindings ∧ ∀ u, (s.ops u).stageOf b = none) :
    Exclusive (bindAll side hd s targets).1 := by
  induction targets generalizing s with
  | nil => exact h
  | cons target targets ih =>
    rcases bindAll_cons side hd target targets s with ⟨heq, -⟩ | ⟨heq, -⟩
    · rw [heq]
      exact ih h hnew
    · rw [heq]
      refine ih ?_ ?_
      · intro b
        by_cases hb : b = s.nextBinding
        · have hfree : ∀ u, (s.ops u).stageOf b = none :=
            (hnew b (Nat.le_of_eq hb.symm)).2
          refine bindingSafe_free (t := 0) (Function.update_eq_self 0 s.ops).symm
            (fun u _ => hfree u) (hfree 0) ?_
          rw [hb]
          refine statusOk_new ?_ ?_ <;> intro y <;> simp [bound, Binding.new]
        · refine (h b).congr (fun _ => rfl) ?_ ?_ ?_
          · simp [bound, hb]
          · simp [bound, hb]
          · simp [bound, hb]
      · intro b hge
        obtain ⟨hm, hst⟩ := hnew b (Nat.le_of_succ_le hge)
        refine ⟨?_, hst⟩
        intro hmem
        rcases List.mem_append.mp hmem with hmem | hmem
        · exact hm hmem
        · exact absurd (List.mem_singleton.mp hmem ▸ hge) (Nat.not_succ_le_self _)

theorem exclusive_attachReturn {success : Bool} (h : Exclusive s) (hb : Bindings s)
    (he : Effect s (.attachReturn t success) s') : Exclusive s' := by
  cases he with
  | @attachSucceeds t side hd b todo hop =>
    obtain ⟨hm, hstart⟩ := hb.attaching (t := t) (b := b) (by rw [hop]; rfl)
    have hnb : ¬ (s.binding b).Begun := not_begun_of_status (y := .client) (Or.inl (hstart _))
    refine h.touch (b := b) rfl rfl (fun _ _ => Iff.rfl) (fun b' _ => by rw [hop]; rfl) ?_
    refine bindingSafe_free (t := t) rfl (fun u _ => hb.no_stage hnb u) rfl ?_
    have hcalled : ∀ y, (s.binding b).detach y = .notCalled := hb.not_called hnb
    simp only [State.setOp, State.emit, State.setBinding, Function.update_self]
    refine ⟨?_, ?_, ?_, ?_, fun hne => absurd hm hne, fun _ _ => hm⟩
    · intro sd hsd
      cases hsd
    · intro sd hsd
      cases hsd
    · intro sd hsd
      exact absurd ((hcalled sd).symm.trans hsd) (by simp)
    · intro sd hsd
      exact absurd ((hcalled sd).symm.trans hsd) (by simp)
  | @attachFails t side hd b todo hop =>
    obtain ⟨hm, hstart⟩ := hb.attaching (t := t) (b := b) (by rw [hop]; rfl)
    have hnb : ¬ (s.binding b).Begun := not_begun_of_status (y := .client) (Or.inl (hstart _))
    refine h.touch (b := b) rfl (Function.update_eq_self b s.binding).symm
      (fun b' hbb => List.mem_erase_of_ne hbb) (fun b' _ => by rw [hop]; rfl) ?_
    exact bindingSafe_free (t := t) rfl (fun u _ => hb.no_stage hnb u) rfl
      (statusOk_new hstart (hb.not_called hnb))

theorem exclusive_beginUnbind (h : Exclusive s) (hb : Bindings s)
    (he : Effect s (.beginUnbind t) s') : Exclusive s' := by
  cases he with
  | passOver hop _ =>
    exact h.amend rfl rfl rfl rfl rfl fun b => by rw [hop]; rfl
  | @beginUnbind t side hd pending b todo d log stage hop hready heq _ =>
    have hm : b ∈ s.bindings := (h b).status.ready .client (hready .client)
    have hnb : ¬ (s.binding b).Begun := not_begun_of_status (y := .client) (Or.inr (hready _))
    -- a ready binding has no thread at work on it: this one becomes its thread
    have hok := callClientDetach_stageOk (s.setBinding b ((s.binding b).setStatus .beginUnbind)) b
      (by simp [Binding.setStatus])
      (by simpa [Binding.setStatus] using hb.not_called hnb .provider)
    rw [heq] at hok
    refine h.touch (b := b) (t := t) rfl rfl (fun _ _ => Iff.rfl) ?_ ?_
    · intro b' hbb
      rw [hop]
      simp [Op.stageOf, Ne.symm hbb]
    · exact bindingSafe_owned (t := t) rfl (fun u _ => hb.no_stage hnb u) (if_pos rfl) hm hok
        (hok.statusOk hm)

theorem exclusive_clientDetachReturn {clientPending : Bool} (h : Exclusive s)
    (he : Effect s (.clientDetachReturn t clientPending) s') : Exclusive s' := by
  cases he with
  | @clientDetachReturn t clientPending side hd pending todo b d log stage hop _ heq _ =>
    have hst : (s.ops t).stageOf b = some .inClient := by
      rw [hop]
      exact if_pos rfl
    obtain ⟨hm, hstat, hrun, -⟩ := (h b).staged t _ hst
    have hok := callProviderDetach_stageOk (s.setBinding b ((s.binding b).setDetach .client
      (((s.binding b).detach .client).returned clientPending))) b clientPending
      (by simp [Binding.setDetach, hstat])
      (by simp [Binding.setDetach, hrun, Detach.returned, detachResult])
    rw [heq] at hok
    refine h.touch (b := b) (t := t) rfl rfl (fun _ _ => Iff.rfl) ?_ ?_
    · intro b' hbb
      rw [hop]
      simp [Op.stageOf, Ne.symm hbb]
    · exact bindingSafe_owned (t := t) rfl ((h b).others (by rw [hst]; simp)) (if_pos rfl) hm hok
        (hok.statusOk hm)

theorem exclusive_providerDetachReturn {providerPending : Bool} (h : Exclusive s)
    (he : Effect s (.providerDetachReturn t providerPending) s') : Exclusive s' := by
  cases he with
  | @providerDetachReturn t providerPending side hd pending todo b clientPending hop _ =>
    have hst : (s.ops t).stageOf b = some (.inProvider clientPending) := by
      rw [hop]
      exact if_pos rfl
    obtain ⟨hm, hstat, hc, hrun⟩ := (h b).staged t _ hst
    have hok : StageOk ((s.binding b).setDetach .provider
        (((s.binding b).detach .provider).returned providerPending))
        (.commit clientPending providerPending) := by
      simp [StageOk, Binding.setDetach, hstat, hc, hrun, Detach.returned, detachResult]
    refine h.touch (b := b) (t := t) rfl rfl (fun _ _ => Iff.rfl) ?_ ?_
    · intro b' hbb
      rw [hop]
      simp [Op.stageOf, Ne.symm hbb]
    · refine bindingSafe_owned (t := t) rfl ((h b).others (by rw [hst]; simp)) (if_pos rfl) hm ?_ ?_
      · simpa using hok
      · simpa using hok.statusOk hm

theorem exclusive_commit (h : Exclusive s) (he : Effect s (.commit t) s') : Exclusive s' := by
  cases he with
  | @commit t side hd pending todo b clientPending providerPending hop =>
    have hst : (s.ops t).stageOf b = some (.commit clientPending providerPending) := by
      rw [hop]
      exact if_pos rfl
    obtain ⟨hm, hok⟩ := (h b).staged t _ hst
    refine h.touch (b := b) (t := t) rfl rfl (fun _ _ => Iff.rfl) ?_ ?_
    · intro b' hbb
      rw [hop]
      split <;> simp [Op.stageOf, Ne.symm hbb]
    · by_cases hc : ((s.binding b).commit clientPending providerPending).isComplete = true
      · rw [if_pos hc]
        have hfin := Binding.commit_complete hok hc
        refine bindingSafe_owned (t := t) rfl ((h b).others (by rw [hst]; simp)) (if_pos rfl) hm
          ?_ ?_
        · simpa using hfin
        · simpa using hfin.statusOk hm
      · rw [if_neg hc]
        refine bindingSafe_free (t := t) rfl ((h b).others (by rw [hst]; simp)) rfl ?_
        simpa using Binding.commit_statusOk hok hm

theorem exclusive_finish (h : Exclusive s) (he : Effect s (.finish t) s') : Exclusive s' := by
  cases he with
  | @finishUnbind t side hd pending todo b hop | @finishDetach t b hop =>
    have hst : (s.ops t).stageOf b = some .finish := by
      rw [hop]
      exact if_pos rfl
    obtain ⟨hm, hok⟩ := (h b).staged t _ hst
    refine h.touch (b := b) rfl (Function.update_eq_self b s.binding).symm
      (fun b' hbb => List.mem_erase_of_ne hbb) ?_ ?_
    · intro b' hbb
      rw [hop]
      simp [Op.stageOf, Ne.symm hbb]
    · exact bindingSafe_free (t := t) rfl ((h b).others (by rw [hst]; simp)) rfl
        (statusOk_erased hok)

theorem exclusive_detachComplete {side : Side} (h : Exclusive s) (hb : Bindings s)
    (hn : NoEarlyCompletion s (.detachComplete t side b))
    (he : Effect s (.detachComplete t side b) s') : Exclusive s' := by
  cases he with
  | @detachComplete t side b hop _ hd =>
    obtain ⟨hm, hpend, -, hset, hfree⟩ := h.completion hb hn hd
    refine h.touch (b := b) (t := t) rfl rfl (fun _ _ => Iff.rfl) ?_ ?_
    · intro b' hbb
      rw [hop]
      split <;> simp [Op.stageOf, Ne.symm hbb]
    · have hnr : (s.binding b).detach side ≠ .running := by
        rw [hpend]
        simp
      rw [if_neg hnr]
      have hstatus := (h b).status.completed side hm hset
      by_cases hc : (s.binding b).status side = .unbindComplete
      · -- the other side was done before
        rw [if_pos hc]
        refine bindingSafe_owned (t := t) rfl (fun u _ => hfree u) (if_pos rfl) hm ?_ ?_
        · simp only [State.setOp, State.emit, State.setBinding, Function.update_self]
          have hdone : ∀ y, Function.update (s.binding b).status side.other
              .unbindComplete y = .unbindComplete := by
            intro y
            rcases side.eq_or_eq_other y with rfl | rfl
            · rw [Function.update_of_ne y.ne_other]
              exact hc
            · exact Function.update_self ..
          intro y
          exact ⟨hdone y, hstatus.complete y (hdone y.other)⟩
        · simpa using hstatus
      · rw [if_neg hc]
        refine bindingSafe_free (t := t) rfl (fun u _ => hfree u) rfl ?_
        simpa using hstatus
  | detachInvalid hop hm hd => exact absurd (h.completion hb hn hd).1 hm

theorem exclusive_step (h : Exclusive s) (hb : Bindings s) (hn : NoEarlyCompletion s a)
    (he : Effect s a s') : Exclusive s' := by
  have he' := he
  cases he with
  | register hop | attach hop | registerReturn hop | deregister hop _ _ | unbindScan hop _
  | unbindPending hop | unbindDone hop | removeBlocks hop _ | remove hop _ | wake hop _
  | wait hop _ _ =>
    exact h.quiet rfl rfl rfl fun b => by rw [hop]; rfl
  | @bindScan t side hd hop =>
    have hall : Exclusive (Nmr.bindAll side hd s (s.collection side.other)).1 := by
      -- the addresses of the new bindings have not been used before
      refine h.bindAll _ ?_
      intro b hge
      refine ⟨fun hm => absurd (hb.lt b hm) (Nat.not_lt.mpr hge), ?_⟩
      exact hb.no_stage (not_begun_of_status (y := .client) (Or.inl (hb.unborn b hge _)))
    have hops := (bindAll_frame side hd (s.collection side.other) s).2.2.1
    refine hall.quiet (t := t) rfl rfl rfl ?_
    intro b
    rw [hops, hop]
    rfl
  | clientAttachProvider hop _ | providerAttachReturn hop =>
    exact h.amend rfl rfl rfl rfl rfl fun b => by rw [hop]; rfl
  | passOver | beginUnbind => exact exclusive_beginUnbind h hb he'
  | @attachInvalid t _ _ _ _ _ hop _ =>
    exact h.quiet (Function.update_eq_self t s.ops).symm rfl rfl fun _ => rfl
  | attachSucceeds | attachFails => exact exclusive_attachReturn h hb he'
  | clientDetachReturn => exact exclusive_clientDetachReturn h he'
  | providerDetachReturn => exact exclusive_providerDetachReturn h he'
  | commit => exact exclusive_commit h he'
  | finishUnbind | finishDetach => exact exclusive_finish h he'
  | detachComplete | detachInvalid => exact exclusive_detachComplete h hb hn he'

end Usersim.Nmr
