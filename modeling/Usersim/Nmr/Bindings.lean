import Usersim.Nmr.Handles

/-!
# Who is at work on a binding

Under the callers' promises alone, and with completions at any moment:

* a binding that is still being attached is in the list of exactly one thread and in `Start`;
* nothing that has begun to unbind ever goes back to `Start` or `Ready`;
* every entry of `bindings` is `Ready`, or has a detach pending, or some thread is at work on it
  (`Cover`).

`Bindings.touch` is the one rule by which every action that works on a binding keeps this.
-/

namespace Usersim.Nmr

open Lib

/-- The bindings a thread has yet to attach, the one it is attaching first. -/
def Op.attachList : Op → List BindingId
  | .attaching _ _ todo => todo
  | .inClientAttach _ _ b todo | .inProviderAttach _ _ b todo => b :: todo
  | _ => []

/-- The binding of a thread between the two critical sections of `begin_unbind`. -/
def Op.detaching : Op → Option BindingId
  | .beginUnbind _ _ _ _ _ .finish => none
  | .beginUnbind _ _ _ _ b _ => some b
  | _ => none

/-- The binding of a thread that is about to call `unbind_complete`. -/
def Op.finishing : Op → Option BindingId
  | .beginUnbind _ _ _ _ b .finish => some b
  | .detachComplete b => some b
  | _ => none

/-- The thread is unbinding `b`. -/
def Op.Unbinds (op : Op) (b : BindingId) : Prop := op.detaching = some b ∨ op.finishing = some b

def Binding.Begun (x : Binding) : Prop := ∀ side, x.status side ≠ .start ∧ x.status side ≠ .ready

/-- Both sides have detached or owe a completion, and one of them does owe it. -/
def Binding.Settled (x : Binding) : Prop :=
  ∃ side, x.status side = .unbindPending ∧
    (x.status side.other = .unbindPending ∨ x.status side.other = .unbindComplete)

/-- Nobody has to do anything about the binding, or some thread is at work on it. -/
def Cover (s : State) (b : BindingId) : Prop :=
  (∀ side, (s.binding b).status side = .ready) ∨ (s.binding b).Settled ∨
    (∃ t, b ∈ (s.ops t).attachList) ∨ ∃ t, (s.ops t).Unbinds b

structure Bindings (s : State) : Prop where
  lt : ∀ b ∈ s.bindings, b < s.nextBinding
  nodup : s.bindings.Nodup
  unborn : ∀ b, s.nextBinding ≤ b → ∀ side, (s.binding b).status side = .start
  attachNodup : ∀ t, (s.ops t).attachList.Nodup
  attachOwn : ∀ t u b, b ∈ (s.ops t).attachList → b ∈ (s.ops u).attachList → t = u
  attachStart : ∀ t, ∀ b ∈ (s.ops t).attachList, b ∈ s.bindings ∧
    ∀ side, (s.binding b).status side = .start
  begun : ∀ t b, (s.ops t).Unbinds b → (s.binding b).Begun
  detached : ∀ b side, (s.binding b).detach side ≠ .notCalled → (s.binding b).Begun
  cover : ∀ b ∈ s.bindings, Cover s b

theorem bindings_init : Bindings State.init where
  lt := fun _ h => absurd h List.not_mem_nil
  nodup := List.nodup_nil
  unborn := fun _ _ _ => rfl
  attachNodup := fun _ => List.nodup_nil
  attachOwn := fun _ _ _ h => absurd h List.not_mem_nil
  attachStart := fun _ _ h => absurd h List.not_mem_nil
  begun := by
    rintro t b (h | h) <;> cases h
  detached := fun _ _ h => absurd rfl h
  cover := fun _ h => absurd h List.not_mem_nil

variable {s s' : State} {a : Action} {t : Tid} {op : Op} {b : BindingId}

theorem Binding.Begun.not_start {x : Binding} (h : x.Begun) (hs : ∀ side, x.status side = .start) :
    False := (h .client).1 (hs .client)

/-- What has begun to unbind is in nobody's list of bindings to attach. -/
theorem Bindings.not_attaching (h : Bindings s) (hb : (s.binding b).Begun) (u : Tid) :
    b ∉ (s.ops u).attachList := fun hm => hb.not_start (h.attachStart u b hm).2

theorem Bindings.lt_of_begun (h : Bindings s) (hb : (s.binding b).Begun) : b < s.nextBinding := by
  by_contra hge
  exact hb.not_start (h.unborn b (Nat.not_lt.mp hge))

/-- The binding a thread is attaching is in `Start`. -/
theorem Bindings.attaching (h : Bindings s) {todo : List BindingId}
    (hlist : (s.ops t).attachList = b :: todo) :
    b ∈ s.bindings ∧ ∀ side, (s.binding b).status side = .start := by
  refine h.attachStart t b ?_
  rw [hlist]
  exact List.mem_cons_self ..

/-- A completion comes for a binding that is being unbound. -/
theorem Bindings.begun_of_owed (h : Bindings s) {side : Side}
    (hd : (s.binding b).detach side = .running ∨ (s.binding b).detach side = .pending) :
    (s.binding b).Begun := by
  refine h.detached b side ?_
  rcases hd with hd | hd <;> rw [hd] <;> simp

/-- What nobody is at work on is attached, or has a detach pending. -/
theorem Bindings.at_rest (h : Bindings s) (hlist : ∀ u, (s.ops u).attachList = [])
    (hunb : ∀ u, ¬ (s.ops u).Unbinds b) (hm : b ∈ s.bindings) :
    (∀ y, (s.binding b).status y = .ready) ∨ (s.binding b).Settled := by
  rcases h.cover b hm with hr | hs | ⟨u, hu⟩ | ⟨u, hu⟩
  · exact Or.inl hr
  · exact Or.inr hs
  · rw [hlist u] at hu
    cases hu
  · exact absurd hu (hunb u)

/-! ## Changing one binding -/

/-- The thread is at work on the same bindings as before, `b` apart. -/
def SameWork (b : BindingId) (old new : Op) : Prop :=
  ∀ b', b' ≠ b → (b' ∈ new.attachList ↔ b' ∈ old.attachList) ∧ (new.Unbinds b' ↔ old.Unbinds b')

/-- One thread works on one binding; the rest is as before. -/
theorem Bindings.touch (h : Bindings s) (b : BindingId)
    (hops : s'.ops = Function.update s.ops t op) (hnext : s'.nextBinding = s.nextBinding)
    (hsub : s'.bindings.Sublist s.bindings)
    (hframe : ∀ b', b' ≠ b → (s'.binding b').status = (s.binding b').status ∧
      (s'.binding b').detach = (s.binding b').detach ∧ (b' ∈ s.bindings → b' ∈ s'.bindings))
    (hwork : SameWork b (s.ops t) op) (hnodup : op.attachList.Nodup)
    (hothers : ∀ u, u ≠ t → b ∉ (s.ops u).attachList)
    (hstart : b ∈ op.attachList → b ∈ s'.bindings ∧ ∀ side, (s'.binding b).status side = .start)
    (hlt : b < s.nextBinding ∨ ∀ side, (s'.binding b).status side = .start)
    (hbegun : ((∃ u, (s'.ops u).Unbinds b) ∨ ∃ side, (s'.binding b).detach side ≠ .notCalled) →
      (s'.binding b).Begun)
    (hcover : b ∈ s'.bindings → Cover s' b) : Bindings s' := by
  have hother : ∀ u, u ≠ t → s'.ops u = s.ops u := fun u hu => by
    rw [hops, Function.update_of_ne hu]
  have hself : s'.ops t = op := by rw [hops, Function.update_self]
  have hlist : ∀ u b', b' ≠ b → (b' ∈ (s'.ops u).attachList ↔ b' ∈ (s.ops u).attachList) := by
    intro u b' hb'
    by_cases hu : u = t
    · subst hu
      rw [hself]
      exact (hwork b' hb').1
    · rw [hother u hu]
  have hunb : ∀ u b', b' ≠ b → ((s'.ops u).Unbinds b' ↔ (s.ops u).Unbinds b') := by
    intro u b' hb'
    by_cases hu : u = t
    · subst hu
      rw [hself]
      exact (hwork b' hb').2
    · rw [hother u hu]
  refine ⟨fun b' hb' => ?_, hsub.nodup h.nodup, fun b' hge x => ?_, fun u => ?_,
    fun u v b' hu hv => ?_, fun u b' hb' => ?_, fun u b' hb' => ?_, fun b' x hx => ?_,
    fun b' hb' => ?_⟩
  · rw [hnext]
    exact h.lt b' (hsub.subset hb')
  · rw [hnext] at hge
    by_cases hbb : b' = b
    · subst hbb
      rcases hlt with hlt | hst
      · exact absurd hlt (Nat.not_lt.mpr hge)
      · exact hst x
    · rw [(hframe b' hbb).1]
      exact h.unborn b' hge x
  · by_cases hu : u = t
    · subst hu
      rwa [hself]
    · rw [hother u hu]
      exact h.attachNodup u
  · by_cases hbb : b' = b
    · subst hbb
      have honly : ∀ w, b' ∈ (s'.ops w).attachList → w = t := by
        intro w hw
        by_contra hwt
        rw [hother w hwt] at hw
        exact hothers w hwt hw
      rw [honly u hu, honly v hv]
    · exact h.attachOwn u v b' ((hlist u b' hbb).mp hu) ((hlist v b' hbb).mp hv)
  · by_cases hbb : b' = b
    · subst hbb
      by_cases hu : u = t
      · subst hu
        rw [hself] at hb'
        exact hstart hb'
      · rw [hother u hu] at hb'
        exact absurd hb' (hothers u hu)
    · obtain ⟨hm, hs⟩ := h.attachStart u b' ((hlist u b' hbb).mp hb')
      rw [(hframe b' hbb).1]
      exact ⟨(hframe b' hbb).2.2 hm, hs⟩
  · by_cases hbb : b' = b
    · subst hbb
      exact hbegun (Or.inl ⟨u, hb'⟩)
    · intro x
      rw [(hframe b' hbb).1]
      exact h.begun u b' ((hunb u b' hbb).mp hb') x
  · by_cases hbb : b' = b
    · subst hbb
      exact hbegun (Or.inr ⟨x, hx⟩)
    · intro y
      rw [(hframe b' hbb).2.1] at hx
      rw [(hframe b' hbb).1]
      exact h.detached b' x hx y
  · by_cases hbb : b' = b
    · subst hbb
      exact hcover hb'
    · unfold Cover Binding.Settled
      rw [(hframe b' hbb).1]
      rcases h.cover b' (hsub.subset hb') with hc | hc | ⟨u, hu⟩ | ⟨u, hu⟩
      · exact Or.inl hc
      · exact Or.inr (Or.inl hc)
      · exact Or.inr (Or.inr (Or.inl ⟨u, (hlist u b' hbb).mpr hu⟩))
      · exact Or.inr (Or.inr (Or.inr ⟨u, (hunb u b' hbb).mpr hu⟩))

/-- No status changes, and the thread is at work on the same bindings as before. -/
theorem Bindings.keep (h : Bindings s) (hops : s'.ops = Function.update s.ops t op)
    (hnext : s'.nextBinding = s.nextBinding) (hb : s'.bindings = s.bindings)
    (hstatus : ∀ b, (s'.binding b).status = (s.binding b).status)
    (hdetach : ∀ b side, (s'.binding b).detach side ≠ .notCalled →
      (s.binding b).detach side ≠ .notCalled ∨ (s.binding b).Begun)
    (hlist : op.attachList = (s.ops t).attachList)
    (hunb : ∀ b, op.Unbinds b ↔ (s.ops t).Unbinds b) : Bindings s' := by
  have hlist' : ∀ u, (s'.ops u).attachList = (s.ops u).attachList := by
    intro u
    by_cases hu : u = t
    · subst hu
      rw [hops, Function.update_self, hlist]
    · rw [hops, Function.update_of_ne hu]
  have hunb' : ∀ u b, (s'.ops u).Unbinds b ↔ (s.ops u).Unbinds b := by
    intro u b
    by_cases hu : u = t
    · subst hu
      rw [hops, Function.update_self, hunb]
    · rw [hops, Function.update_of_ne hu]
  have hbeg : ∀ b, (s.binding b).Begun → (s'.binding b).Begun := by
    intro b hbe x
    rw [hstatus]
    exact hbe x
  refine ⟨by rw [hb, hnext]; exact h.lt, by rw [hb]; exact h.nodup, fun b hge x => ?_,
    fun u => by rw [hlist']; exact h.attachNodup u,
    fun u v b hu hv => h.attachOwn u v b (hlist' u ▸ hu) (hlist' v ▸ hv),
    fun u b hm => ?_, fun u b hm => hbeg b (h.begun u b ((hunb' u b).mp hm)),
    fun b x hx => hbeg b ((hdetach b x hx).elim (h.detached b x) id), fun b hm => ?_⟩
  · rw [hstatus]
    exact h.unborn b (hnext ▸ hge) x
  · rw [hb, hstatus]
    exact h.attachStart u b (hlist' u ▸ hm)
  · unfold Cover Binding.Settled
    rw [hstatus]
    rcases h.cover b (hb ▸ hm) with hc | hc | ⟨u, hu⟩ | ⟨u, hu⟩
    · exact Or.inl hc
    · exact Or.inr (Or.inl hc)
    · exact Or.inr (Or.inr (Or.inl ⟨u, by rw [hlist']; exact hu⟩))
    · exact Or.inr (Or.inr (Or.inr ⟨u, (hunb' u b).mpr hu⟩))

/-! ## The scan of `perform_bind` -/

variable {side : Side} {h : Handle}

/-- A new binding goes to the end of the thread's list. -/
theorem Bindings.create {acc : List BindingId} {pair : Side → Handle}
    (hb : Bindings (s.setOp t (.attaching side h acc))) :
    Bindings ((bound s pair).setOp t (.attaching side h (acc ++ [s.nextBinding]))) := by
  have hfresh : ∀ b, b ∈ s.bindings → b ≠ s.nextBinding := fun b hm =>
    Nat.ne_of_lt (hb.lt b hm)
  have hself : (Function.update s.ops t (Op.attaching side h acc) t).attachList = acc := by
    rw [Function.update_self]
    rfl
  have hlist : ∀ u b, b ∈ (Function.update s.ops t (Op.attaching side h (acc ++ [s.nextBinding])) u
      ).attachList ↔ b ∈ (Function.update s.ops t (Op.attaching side h acc) u).attachList ∨
        u = t ∧ b = s.nextBinding := by
    intro u b
    by_cases hu : u = t
    · subst hu
      simp [Op.attachList]
    · simp [hu]
  have hunb : ∀ u b, (Function.update s.ops t (Op.attaching side h (acc ++ [s.nextBinding])) u
      ).Unbinds b ↔ (Function.update s.ops t (Op.attaching side h acc) u).Unbinds b := by
    intro u b
    by_cases hu : u = t
    · subst hu
      simp [Op.Unbinds, Op.detaching, Op.finishing]
    · simp [hu]
  have hold : ∀ b, b ≠ s.nextBinding →
      Function.update s.binding s.nextBinding (.new pair) b = s.binding b :=
    fun b hne => Function.update_of_ne hne ..
  have hnolist : ∀ u, s.nextBinding ∉
      (Function.update s.ops t (Op.attaching side h acc) u).attachList :=
    fun u hm => hfresh _ (hb.attachStart u _ hm).1 rfl
  refine ⟨fun b hm => ?_, ?_, fun b hge x => ?_, fun u => ?_, fun u v b hu hv => ?_,
    fun u b hm => ?_, fun u b hm => ?_, fun b x hx => ?_, fun b hm => ?_⟩
  · rcases List.mem_append.mp hm with hm | hm
    · exact Nat.lt_succ_of_lt (hb.lt b hm)
    · rw [List.mem_singleton.mp hm]
      exact Nat.lt_succ_self _
  · refine List.nodup_append.mpr ⟨hb.nodup, by simp, fun x hx y hy hxy => ?_⟩
    exact hfresh x hx (hxy.trans (List.mem_singleton.mp hy))
  · show (Function.update s.binding s.nextBinding (.new pair) b).status x = _
    rw [hold b (Nat.ne_of_gt hge)]
    exact hb.unborn b (Nat.le_of_succ_le hge) x
  · show (Function.update s.ops t _ u).attachList.Nodup
    by_cases hu : u = t
    · subst hu
      have hnd := hb.attachNodup u
      simp only [State.setOp] at hnd
      rw [hself] at hnd
      rw [Function.update_self]
      refine List.nodup_append.mpr ⟨hnd, by simp, fun x hx y hy hxy => ?_⟩
      have hno := hnolist u
      rw [hself] at hno
      exact hno (List.mem_singleton.mp hy ▸ hxy ▸ hx)
    · have hnd := hb.attachNodup u
      simp only [State.setOp, Function.update_of_ne hu] at hnd
      rwa [Function.update_of_ne hu]
  · rcases (hlist u b).mp hu with hu | ⟨hut, hub⟩ <;>
      rcases (hlist v b).mp hv with hv | ⟨hvt, hvb⟩
    · exact hb.attachOwn u v b hu hv
    · rw [hvb] at hu
      exact absurd hu (hnolist u)
    · rw [hub] at hv
      exact absurd hv (hnolist v)
    · exact hut.trans hvt.symm
  · rcases (hlist u b).mp hm with hm | ⟨-, rfl⟩
    · obtain ⟨hmem, hst⟩ := hb.attachStart u b hm
      refine ⟨List.mem_append_left _ hmem, fun x => ?_⟩
      show (Function.update s.binding s.nextBinding (.new pair) b).status x = _
      rw [hold b (hfresh b hmem)]
      exact hst x
    · refine ⟨List.mem_append_right _ (List.mem_singleton_self _), fun x => ?_⟩
      show (Function.update s.binding s.nextBinding (.new pair) s.nextBinding).status x = _
      rw [Function.update_self]
      rfl
  · have hbeg := hb.begun u b ((hunb u b).mp hm)
    have hne : b ≠ s.nextBinding := Nat.ne_of_lt (hb.lt_of_begun hbeg)
    show (Function.update s.binding s.nextBinding (.new pair) b).Begun
    rw [hold b hne]
    exact hbeg
  · by_cases hne : b = s.nextBinding
    · subst hne
      simp [bound, Binding.new] at hx
    · have hx' : (s.binding b).detach x ≠ .notCalled := by simpa [bound, hne] using hx
      show (Function.update s.binding s.nextBinding (.new pair) b).Begun
      rw [hold b hne]
      exact hb.detached b x hx'
  · rcases List.mem_append.mp hm with hm | hm
    · unfold Cover
      have hcov := hb.cover b hm
      unfold Cover at hcov
      simp only [State.setOp, bound, hold b (hfresh b hm)] at hcov ⊢
      rcases hcov with hc | hc | ⟨u, hu⟩ | ⟨u, hu⟩
      · exact Or.inl hc
      · exact Or.inr (Or.inl hc)
      · exact Or.inr (Or.inr (Or.inl ⟨u, (hlist u b).mpr (Or.inl hu)⟩))
      · exact Or.inr (Or.inr (Or.inr ⟨u, (hunb u b).mpr hu⟩))
    · rw [List.mem_singleton.mp hm]
      exact Or.inr (Or.inr (Or.inl ⟨t, (hlist t _).mpr (Or.inr ⟨rfl, rfl⟩)⟩))

theorem Bindings.bindAll (targets : List Handle) {acc : List BindingId}
    (hb : Bindings (s.setOp t (.attaching side h acc))) :
    Bindings ((bindAll side h s targets).1.setOp t
      (.attaching side h (acc ++ (bindAll side h s targets).2))) := by
  induction targets generalizing s acc with
  | nil => simpa [bindAll_nil] using hb
  | cons target targets ih =>
    rcases bindAll_cons side h target targets s with ⟨heq, -⟩ | ⟨heq, -⟩
    · rw [heq]
      exact ih hb
    · rw [heq, List.append_cons]
      exact ih hb.create

/-! ## Every action -/

theorem Bindings.congr (h : Bindings s) (hops : s'.ops = s.ops)
    (hnext : s'.nextBinding = s.nextBinding) (hb : s'.bindings = s.bindings)
    (hbinding : s'.binding = s.binding) : Bindings s' :=
  h.keep (t := 0) (hops.trans (Function.update_eq_self 0 s.ops).symm) hnext hb
    (fun b => by rw [hbinding]) (fun b side hd => Or.inl (by rwa [hbinding] at hd)) rfl
    fun _ => Iff.rfl

/-- An action on handles and calls only. -/
theorem Bindings.quiet (h : Bindings s) (hops : s'.ops = Function.update s.ops t op)
    (hnext : s'.nextBinding = s.nextBinding) (hb : s'.bindings = s.bindings)
    (hbinding : s'.binding = s.binding) (hlist : op.attachList = (s.ops t).attachList)
    (hunb : ∀ b, op.Unbinds b ↔ (s.ops t).Unbinds b) : Bindings s' :=
  h.keep hops hnext hb (fun b => by rw [hbinding])
    (fun b side hd => Or.inl (by rwa [hbinding] at hd)) hlist hunb

/-- An action that changes neither the statuses of a binding nor who is at work on it. -/
theorem Bindings.amend (h : Bindings s) {x : Binding}
    (hops : s'.ops = Function.update s.ops t op) (hnext : s'.nextBinding = s.nextBinding)
    (hb : s'.bindings = s.bindings) (hbinding : s'.binding = Function.update s.binding b x)
    (hstatus : x.status = (s.binding b).status)
    (hdetach : x.detach = (s.binding b).detach ∨ (s.binding b).Begun)
    (hlist : op.attachList = (s.ops t).attachList)
    (hunb : ∀ b, op.Unbinds b ↔ (s.ops t).Unbinds b) : Bindings s' := by
  refine h.keep hops hnext hb (fun b' => ?_) (fun b' side hd => ?_) hlist hunb
  · rw [hbinding]
    by_cases hbb : b' = b
    · subst hbb
      rw [Function.update_self, hstatus]
    · rw [Function.update_of_ne hbb]
  · rw [hbinding] at hd
    by_cases hbb : b' = b
    · subst hbb
      rw [Function.update_self] at hd
      rcases hdetach with hx | hx
      · rw [hx] at hd
        exact Or.inl hd
      · exact Or.inr hx
    · rw [Function.update_of_ne hbb] at hd
      exact Or.inl hd

theorem detaching_unbinds {side : Side} {h : Handle} {pending : Bool} {todo : List BindingId}
    {stage : DetachStage} : (Op.beginUnbind side h pending todo b stage).Unbinds b := by
  cases stage <;> first | exact Or.inl rfl | exact Or.inr rfl

theorem unbinds_detaching {side : Side} {h : Handle} {pending : Bool} {todo : List BindingId}
    {stage : DetachStage} {b' : BindingId} :
    (Op.beginUnbind side h pending todo b stage).Unbinds b' ↔ b' = b := by
  constructor
  · intro h
    cases stage <;> rcases h with h | h <;> cases h <;> rfl
  · rintro rfl
    exact detaching_unbinds

/-- `unbind_complete` of a binding nobody else has a claim on. -/
theorem Bindings.complete (h : Bindings s) (hbeg : b < s.nextBinding)
    (hops : s'.ops = Function.update s.ops t op) (hnext : s'.nextBinding = s.nextBinding)
    (hb : s'.bindings = s.bindings.erase b) (hbinding : s'.binding = s.binding)
    (hwork : SameWork b (s.ops t) op) (hnodup : op.attachList.Nodup) (hnot : b ∉ op.attachList)
    (hothers : ∀ u, u ≠ t → b ∉ (s.ops u).attachList)
    (hun : ∀ u, (s'.ops u).Unbinds b → (s.binding b).Begun) : Bindings s' := by
  refine h.touch b hops hnext (hb ▸ List.erase_sublist) (fun b' hbb => ⟨by rw [hbinding],
    by rw [hbinding], fun hm => by rw [hb]; exact (List.mem_erase_of_ne hbb).mpr hm⟩) hwork hnodup
    hothers (fun hm => absurd hm hnot) (Or.inl hbeg) ?_ fun hm => ?_
  · rw [hbinding]
    rintro (⟨u, hu⟩ | ⟨x, hx⟩)
    · exact hun u hu
    · exact h.detached b x hx
  · rw [hb] at hm
    exact absurd rfl (h.nodup.mem_erase_iff.mp hm).1

theorem not_unbinds_of_none {op : Op} (hd : op.detaching = none) (hf : op.finishing = none)
    (b : BindingId) : ¬ op.Unbinds b := by
  rintro (h | h)
  · rw [hd] at h
    cases h
  · rw [hf] at h
    cases h

theorem unbinds_iff_of_none {op op' : Op} (hd : op.detaching = none) (hf : op.finishing = none)
    (hd' : op'.detaching = none) (hf' : op'.finishing = none) (b : BindingId) :
    op.Unbinds b ↔ op'.Unbinds b :=
  iff_of_false (not_unbinds_of_none hd hf b) (not_unbinds_of_none hd' hf' b)

theorem sameWork_attachNext {side : Side} {h : Handle} {todo : List BindingId} :
    SameWork b (.inClientAttach side h b todo) (.attaching side h todo) := by
  intro b' hbb
  refine ⟨?_, iff_of_false (not_unbinds_of_none rfl rfl b') (not_unbinds_of_none rfl rfl b')⟩
  simp [Op.attachList, hbb]

/-- The second critical section leaves a binding complete, or with a detach pending. -/
theorem Binding.commit_settled (x : Binding) (clientPending providerPending : Bool)
    (hc : (x.commit clientPending providerPending).isComplete = false) :
    (x.commit clientPending providerPending).Settled := by
  have hcases : ∀ p st, commitStatus p st = .unbindPending ∨
      commitStatus p st = .unbindComplete := by
    intro p st
    unfold commitStatus
    split
    · exact Or.inl rfl
    · exact Or.inr rfl
  simp only [Binding.isComplete, Bool.and_eq_false_iff, decide_eq_false_iff_not] at hc
  rcases hc with hc | hc
  · exact ⟨.client, (hcases _ _).resolve_right hc, hcases _ _⟩
  · exact ⟨.provider, (hcases _ _).resolve_right hc, hcases _ _⟩

theorem Binding.commit_begun (x : Binding) (clientPending providerPending : Bool) :
    (x.commit clientPending providerPending).Begun := by
  have hcases : ∀ p st, commitStatus p st ≠ .start ∧ commitStatus p st ≠ .ready := by
    intro p st
    unfold commitStatus
    split <;> exact ⟨by simp, by simp⟩
  intro side
  cases side <;> exact hcases _ _

theorem bindings_attachReturn {success : Bool} (h : Bindings s)
    (he : Effect s (.attachReturn t success) s') : Bindings s' := by
  cases he with
  | @attachSucceeds t side hd b todo hop =>
    have hlist : (s.ops t).attachList = b :: todo := by rw [hop]; rfl
    have hnd := hlist ▸ h.attachNodup t
    have hmem : b ∈ (s.ops t).attachList := by rw [hlist]; exact List.mem_cons_self ..
    obtain ⟨hbm, hst⟩ := h.attachStart t b hmem
    -- nobody unbinds a binding in `Start`, and none of its detach callbacks has been called
    have hnot : ¬ (s.binding b).Begun := fun hb => hb.not_start hst
    refine h.touch b rfl rfl (List.Sublist.refl _) (fun b' hbb => ?_) (hop ▸ sameWork_attachNext)
      (List.nodup_cons.mp hnd).2 (fun u hu hm => hu (h.attachOwn u t b hm hmem))
      (fun hm => absurd hm (List.nodup_cons.mp hnd).1) (Or.inl (h.lt b hbm)) ?_
      (fun _ => Or.inl fun x => ?_)
    · simp [hbb]
    · rintro (⟨u, hu⟩ | ⟨x, hx⟩)
      · by_cases hut : u = t
        · subst hut
          simp only [State.setOp, Function.update_self] at hu
          exact absurd hu (not_unbinds_of_none rfl rfl b)
        · simp only [State.setOp, State.emit, State.setBinding, Function.update_of_ne hut] at hu
          exact absurd (h.begun u b hu) hnot
      · simp only [State.setOp, State.emit, State.setBinding, Function.update_self,
          Binding.setStatus] at hx
        exact absurd (h.detached b x hx) hnot
    · simp [Binding.setStatus]
  | @attachFails t side hd b todo hop =>
    have hlist : (s.ops t).attachList = b :: todo := by rw [hop]; rfl
    have hnd := hlist ▸ h.attachNodup t
    have hmem : b ∈ (s.ops t).attachList := by rw [hlist]; exact List.mem_cons_self ..
    -- `unbind_complete` of a binding in `Start`: only the attaching thread knows it
    refine h.complete (h.lt b (h.attachStart t b hmem).1) rfl rfl rfl rfl
      (hop ▸ sameWork_attachNext)
      (List.nodup_cons.mp hnd).2 (List.nodup_cons.mp hnd).1
      (fun u hu hm => hu (h.attachOwn u t b hm hmem)) fun u hu => ?_
    by_cases hut : u = t
    · subst hut
      simp only [State.setOp, Function.update_self] at hu
      exact absurd hu (not_unbinds_of_none rfl rfl b)
    · simp only [State.setOp, Function.update_of_ne hut] at hu
      exact h.begun u b hu

theorem bindings_beginUnbind (h : Bindings s)
    (he : Effect s (.beginUnbind t) s') : Bindings s' := by
  cases he with
  | passOver hop _ =>
    exact h.amend rfl rfl rfl rfl rfl (Or.inl rfl) (by rw [hop]; rfl)
      (by rw [hop]; exact unbinds_iff_of_none rfl rfl rfl rfl)
  | @beginUnbind t side hd pending b todo d log stage hop hready heq hlog =>
    have hlt : b < s.nextBinding := by
      by_contra hge
      have hst := h.unborn b (Nat.not_lt.mp hge) .client
      rw [hready] at hst
      cases hst
    refine h.touch b rfl rfl (List.Sublist.refl _) (fun b' hbb => ?_) (fun b' hbb => ?_)
      List.nodup_nil (fun u _ hm => ?_) (fun hm => absurd hm List.not_mem_nil) (Or.inl hlt)
      (fun _ x => ?_) (fun _ => Or.inr (Or.inr (Or.inr ⟨t, ?_⟩)))
    · simp [hbb]
    · rw [hop]
      refine ⟨Iff.rfl, iff_of_false (fun hu => hbb (unbinds_detaching.mp hu)) ?_⟩
      exact not_unbinds_of_none rfl rfl b'
    · have hst := (h.attachStart u b hm).2 .client
      rw [hready] at hst
      cases hst
    · simp [Binding.setStatus]
    · simp only [State.setOp, Function.update_self]
      exact detaching_unbinds

theorem bindings_commit (h : Bindings s) (he : Effect s (.commit t) s') : Bindings s' := by
  cases he with
  | @commit t side hd pending todo b clientPending providerPending hop =>
    have hbeg : (s.binding b).Begun := h.begun t b (by rw [hop]; exact detaching_unbinds)
    refine h.touch b rfl rfl (List.Sublist.refl _) (fun b' hbb => ?_) (fun b' hbb => ?_) ?_
      (fun u _ => h.not_attaching hbeg u) (fun hm => ?_) (Or.inl (h.lt_of_begun hbeg))
      (fun _ => ?_) fun _ => ?_
    · simp [hbb]
    · rw [hop]
      split
      · exact ⟨Iff.rfl, by rw [unbinds_detaching, unbinds_detaching]⟩
      · refine ⟨Iff.rfl, iff_of_false (not_unbinds_of_none rfl rfl b') fun hu => ?_⟩
        exact hbb (unbinds_detaching.mp hu)
    · split <;> exact List.nodup_nil
    · split at hm <;> cases hm
    · simp only [State.setOp, State.setBinding, Function.update_self]
      exact Binding.commit_begun _ _ _
    · unfold Cover
      simp only [State.setOp, State.setBinding, Function.update_self]
      -- both sides are done and the thread goes on to erase it, or a completion is still owed
      by_cases hc : ((s.binding b).commit clientPending providerPending).isComplete = true
      · refine Or.inr (Or.inr (Or.inr ⟨t, ?_⟩))
        rw [if_pos hc, Function.update_self]
        exact detaching_unbinds
      · exact Or.inr (Or.inl (Binding.commit_settled _ _ _ (by simpa using hc)))

theorem bindings_finish (h : Bindings s) (he : Effect s (.finish t) s') : Bindings s' := by
  cases he with
  | @finishUnbind t side hd pending todo b hop =>
    have hbeg : (s.binding b).Begun := h.begun t b (by rw [hop]; exact detaching_unbinds)
    refine h.complete (h.lt_of_begun hbeg) rfl rfl rfl rfl (fun b' hbb => ?_) List.nodup_nil
      List.not_mem_nil (fun u _ => h.not_attaching hbeg u) fun _ _ => hbeg
    rw [hop]
    refine ⟨Iff.rfl, iff_of_false (not_unbinds_of_none rfl rfl b') fun hu => ?_⟩
    exact hbb (unbinds_detaching.mp hu)
  | @finishDetach t b hop =>
    have hbeg : (s.binding b).Begun := h.begun t b (by rw [hop]; exact Or.inr rfl)
    refine h.complete (h.lt_of_begun hbeg) rfl rfl rfl rfl (fun b' hbb => ?_) List.nodup_nil
      List.not_mem_nil (fun u _ => h.not_attaching hbeg u) fun _ _ => hbeg
    rw [hop]
    refine ⟨Iff.rfl, iff_of_false (not_unbinds_of_none rfl rfl b') ?_⟩
    rintro (hu | hu)
    · cases hu
    · cases hu
      exact hbb rfl

theorem bindings_detachComplete (h : Bindings s)
    (he : Effect s (.detachComplete t side b) s') : Bindings s' := by
  cases he with
  | @detachComplete t side b hop hbm hd =>
    have hbeg : (s.binding b).Begun := h.begun_of_owed hd
    refine h.touch b rfl rfl (List.Sublist.refl _) (fun b' hbb => ?_) (fun b' hbb => ?_) ?_
      (fun u _ => h.not_attaching hbeg u) (fun hm => ?_) (Or.inl (h.lt_of_begun hbeg))
      (fun _ x => ?_) fun _ => ?_
    · simp [hbb]
    · rw [hop]
      split
      · refine ⟨Iff.rfl, iff_of_false ?_ (not_unbinds_of_none rfl rfl b')⟩
        rintro (hu | hu)
        · cases hu
        · cases hu
          exact hbb rfl
      · exact ⟨Iff.rfl, Iff.rfl⟩
    · split <;> exact List.nodup_nil
    · split at hm <;> cases hm
    · simp only [State.setOp, State.setBinding, State.emit, Function.update_self]
      by_cases hx : x = side.other
      · rw [hx, Function.update_self]
        exact ⟨by simp, by simp⟩
      · rw [Function.update_of_ne hx]
        exact hbeg x
    · unfold Cover
      simp only [State.setOp, State.setBinding, State.emit, Function.update_self]
      by_cases hc : (s.binding b).status side = .unbindComplete
      · refine Or.inr (Or.inr (Or.inr ⟨t, ?_⟩))
        rw [if_pos hc, Function.update_self]
        exact Or.inr rfl
      · rw [if_neg hc]
        rcases h.cover b hbm with hr | ⟨sd, hp, ho⟩ | ⟨u, hu⟩ | ⟨u, hu⟩
        · exact absurd (hr side) (hbeg side).2
        · -- the other detach is still pending
          have hside : (s.binding b).status side = .unbindPending := by
            by_cases hsd : sd = side
            · exact hsd ▸ hp
            · have hother : sd.other = side := by
                cases sd <;> cases side <;> first | rfl | exact absurd rfl hsd
              rw [hother] at ho
              exact ho.resolve_right hc
          refine Or.inr (Or.inl ⟨side, ?_, Or.inr (Function.update_self ..)⟩)
          show Function.update (s.binding b).status side.other _ side = _
          rw [Function.update_of_ne side.ne_other]
          exact hside
        · exact absurd hu (h.not_attaching hbeg u)
        · refine Or.inr (Or.inr (Or.inr ⟨u, ?_⟩))
          have hut : u ≠ t := by
            rintro rfl
            rw [hop] at hu
            exact not_unbinds_of_none rfl rfl b hu
          rwa [Function.update_of_ne hut]
  | @detachInvalid t _ _ hop _ _ =>
    exact h.quiet rfl rfl rfl rfl (by rw [hop])
      (by rw [hop]; exact unbinds_iff_of_none rfl rfl rfl rfl)

theorem bindings_step (h : Bindings s) (he : Effect s a s') : Bindings s' := by
  have he' := he
  cases he with
  | register hop | attach hop | registerReturn hop | deregister hop _ _ | unbindScan hop _
  | unbindPending hop | unbindDone hop | removeBlocks hop _ | remove hop _ | wake hop _
  | wait hop _ _ =>
    exact h.quiet rfl rfl rfl rfl (by rw [hop]; rfl)
      (by rw [hop]; exact unbinds_iff_of_none rfl rfl rfl rfl)
  | @bindScan t side hd hop =>
    have hstart : Bindings (s.setOp t (.attaching side hd [])) :=
      h.quiet rfl rfl rfl rfl (by rw [hop]; rfl)
        (by rw [hop]; exact unbinds_iff_of_none rfl rfl rfl rfl)
    -- the list of pending actions grows with the bindings of the scan
    have hall := hstart.bindAll (s.collection side.other)
    exact hall.congr rfl rfl rfl rfl
  | clientAttachProvider hop _ | providerAttachReturn hop =>
    exact h.amend rfl rfl rfl rfl rfl (Or.inl rfl) (by rw [hop]; rfl)
      (by rw [hop]; exact unbinds_iff_of_none rfl rfl rfl rfl)
  | passOver | beginUnbind => exact bindings_beginUnbind h he'
  | @attachInvalid t _ _ _ _ _ hop _ =>
    exact h.quiet (Function.update_eq_self t s.ops).symm rfl rfl rfl rfl fun _ => Iff.rfl
  | attachSucceeds | attachFails => exact bindings_attachReturn h he'
  | @clientDetachReturn t clientPending side hd pending todo b d log stage hop _ _ _
  | @providerDetachReturn t providerPending side hd pending todo b clientPending hop _ =>
    have hbeg : (s.binding b).Begun := h.begun t b (by rw [hop]; exact detaching_unbinds)
    refine h.amend rfl rfl rfl rfl rfl (Or.inr hbeg) (by rw [hop]; rfl) fun b' => ?_
    rw [hop, unbinds_detaching, unbinds_detaching]
  | commit => exact bindings_commit h he'
  | finishUnbind | finishDetach => exact bindings_finish h he'
  | detachComplete | detachInvalid => exact bindings_detachComplete h he'

end Usersim.Nmr
