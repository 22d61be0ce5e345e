import Usersim.Nmr.Bindings

/-!
# Deregistration and bindings that are still being attached

When a client or provider deregisters, `perform_unbind` visits every binding it has. A binding is
attached or being attached until then, so somebody must still be on the way to it
(`Unstranded.visit`). The exception is a binding that `begin_unbind` found in `Start`: it was left
alone as if it were being unbound already.

* `unstranded_step` — one action keeps the invariant, if no attach ends well on such a binding
* `deregistration_not_stranded` — then no quiescent state has a binding that nobody will unbind
* `attach_after_passOver` — a run in which an attach does end well on such a binding
-/

namespace Usersim.Nmr

open Lib

/-- The thread is deregistering `h` and has the binding still ahead of it. -/
def Op.Visits (op : Op) (side : Side) (h : Handle) (b : BindingId) : Prop :=
  match op with
  | .performUnbind sd hd => sd = side ∧ hd = h
  | .unbinding sd hd _ todo | .beginUnbind sd hd _ todo _ _ => sd = side ∧ hd = h ∧ b ∈ todo
  | _ => False

structure Unstranded (s : State) : Prop where
  /-- The registrations of a binding are of the right kind. -/
  typed : ∀ b, b < s.nextBinding → ∀ side, (s.binding b).registration side < s.nextHandle ∧
    (s.binding b).registration side ∉ s.collection side.other
  met : ∀ b, (s.binding b).metInStart = true → (s.binding b).status .client ≠ .ready
  visit : ∀ b ∈ s.bindings, ¬ (s.binding b).Begun → (s.binding b).metInStart = false →
    ∀ side, (s.registration ((s.binding b).registration side)).deregistering = true →
      ∃ t, (s.ops t).Visits side ((s.binding b).registration side) b

theorem unstranded_init : Unstranded State.init where
  typed := fun _ h => absurd h (Nat.not_lt_zero _)
  met := fun _ h => by cases h
  visit := fun _ h => absurd h List.not_mem_nil

variable {s s' : State} {a : Action} {t : Tid} {op : Op} {b : BindingId} {side : Side} {h : Handle}

/-- A binding that has not begun to unbind is attached or being attached. -/
theorem Bindings.start_or_ready (hb : Bindings s) (hm : b ∈ s.bindings)
    (hn : ¬ (s.binding b).Begun) :
    (∀ x, (s.binding b).status x = .ready) ∨ ∀ x, (s.binding b).status x = .start := by
  rcases hb.cover b hm with hr | ⟨sd, hp, ho⟩ | ⟨u, hu⟩ | ⟨u, hu⟩
  · exact Or.inl hr
  · refine absurd ?_ hn
    intro x
    rcases sd.eq_or_eq_other x with rfl | rfl
    · rw [hp]
      exact ⟨by simp, by simp⟩
    · rcases ho with ho | ho <;> rw [ho] <;> exact ⟨by simp, by simp⟩
  · exact Or.inr (hb.attachStart u b hu).2
  · exact absurd (hb.begun u b hu) hn

/-! ## One action -/

/-- An action that deactivates nothing, begins no binding, and does not end a visit. -/
theorem Unstranded.keep (hu : Unstranded s) (hops : s'.ops = Function.update s.ops t op)
    (hnext : s'.nextBinding = s.nextBinding) (hhandle : s'.nextHandle = s.nextHandle)
    (hcol : ∀ sd, s'.collection sd ⊆ s.collection sd) (hsub : s'.bindings ⊆ s.bindings)
    (hreg : ∀ b, (s'.binding b).registration = (s.binding b).registration)
    (hdereg : ∀ hd, (s'.registration hd).deregistering = true →
      (s.registration hd).deregistering = true)
    (hmet : ∀ b, (s'.binding b).metInStart = true → (s'.binding b).status .client ≠ .ready)
    (hback : ∀ b ∈ s'.bindings, ¬ (s'.binding b).Begun → (s'.binding b).metInStart = false →
      ¬ (s.binding b).Begun ∧ (s.binding b).metInStart = false ∧
        ∀ sd, (s.ops t).Visits sd ((s.binding b).registration sd) b →
          op.Visits sd ((s.binding b).registration sd) b) : Unstranded s' := by
  refine ⟨?_, hmet, ?_⟩
  · intro b hlt sd
    rw [hreg, hhandle]
    obtain ⟨hl, hno⟩ := hu.typed b (hnext ▸ hlt) sd
    exact ⟨hl, fun hm => hno (hcol _ hm)⟩
  · intro b hm hn hmet' sd hd
    rw [hreg] at hd ⊢
    obtain ⟨hn', hmet'', hvis⟩ := hback b hm hn hmet'
    obtain ⟨u, hv⟩ := hu.visit b (hsub hm) hn' hmet'' sd (hdereg _ hd)
    refine ⟨u, ?_⟩
    rw [hops]
    by_cases hut : u = t
    · subst hut
      rw [Function.update_self]
      exact hvis sd hv
    · rwa [Function.update_of_ne hut]

/-- The same for an action that leaves the bindings alone. -/
theorem Unstranded.quiet (hu : Unstranded s) (hops : s'.ops = Function.update s.ops t op)
    (hnext : s'.nextBinding = s.nextBinding) (hhandle : s'.nextHandle = s.nextHandle)
    (hcol : ∀ sd, s'.collection sd ⊆ s.collection sd) (hsub : s'.bindings ⊆ s.bindings)
    (hbinding : s'.binding = s.binding)
    (hdereg : ∀ hd, (s'.registration hd).deregistering = true →
      (s.registration hd).deregistering = true)
    (hvisit : ∀ b ∈ s'.bindings, ∀ sd, (s.ops t).Visits sd ((s.binding b).registration sd) b →
      op.Visits sd ((s.binding b).registration sd) b) : Unstranded s' := by
  refine hu.keep hops hnext hhandle hcol hsub (fun b => by rw [hbinding]) hdereg ?_ ?_
  · rw [hbinding]
    exact hu.met
  · intro b hm hn hmet
    rw [hbinding] at hn hmet
    exact ⟨hn, hmet, hvisit b hm⟩

/-- The same for an action that changes one binding. -/
theorem Unstranded.amend (hu : Unstranded s) {x : Binding}
    (hops : s'.ops = Function.update s.ops t op) (hnext : s'.nextBinding = s.nextBinding)
    (hhandle : s'.nextHandle = s.nextHandle) (hcol : s'.collection = s.collection)
    (hsub : s'.bindings = s.bindings) (hregs : s'.registration = s.registration)
    (hbinding : s'.binding = Function.update s.binding b x)
    (hreg : x.registration = (s.binding b).registration)
    (hmet : x.metInStart = true → x.status .client ≠ .ready)
    (hself : b ∈ s.bindings → ¬ x.Begun → x.metInStart = false →
      ¬ (s.binding b).Begun ∧ (s.binding b).metInStart = false ∧
        ∀ sd, (s.ops t).Visits sd ((s.binding b).registration sd) b →
          op.Visits sd ((s.binding b).registration sd) b)
    (hvisit : ∀ b', b' ≠ b → ∀ sd hd, (s.ops t).Visits sd hd b' → op.Visits sd hd b') :
    Unstranded s' := by
  have hx : s'.binding b = x := by rw [hbinding, Function.update_self]
  have hother : ∀ b', b' ≠ b → s'.binding b' = s.binding b' := by
    intro b' hbb
    rw [hbinding, Function.update_of_ne hbb]
  refine hu.keep hops hnext hhandle (fun sd => hcol ▸ List.Subset.refl _)
    (hsub ▸ List.Subset.refl _) ?_ (fun hd hd' => hregs ▸ hd') ?_ ?_
  · intro b'
    by_cases hbb : b' = b
    · subst hbb
      rw [hx, hreg]
    · rw [hother b' hbb]
  · intro b' hm
    by_cases hbb : b' = b
    · subst hbb
      rw [hx] at hm ⊢
      exact hmet hm
    · rw [hother b' hbb] at hm ⊢
      exact hu.met b' hm
  · intro b' hm hn hme
    by_cases hbb : b' = b
    · subst hbb
      rw [hx] at hn hme
      exact hself (hsub ▸ hm) hn hme
    · rw [hother b' hbb] at hn hme
      exact ⟨hn, hme, fun sd => hvisit b' hbb sd _⟩

theorem dropReferences_deregistering (s : State) (b : BindingId) (hd : Handle) :
    (dropReferences s b hd).deregistering = (s.registration hd).deregistering := by
  obtain ⟨c, hc⟩ := dropReferences_registration s b hd
  rw [hc]

/-- The scan makes bindings only of registrations that are not deregistering. -/
theorem Unstranded.bindAll (targets : List Handle) (hu : Unstranded s)
    (htyped : ∀ target ∈ targets, ∀ x, pairOf side h target x < s.nextHandle ∧
      pairOf side h target x ∉ s.collection x.other) :
    Unstranded (bindAll side h s targets).1 := by
  induction targets generalizing s with
  | nil => exact hu
  | cons target targets ih =>
    rcases bindAll_cons side h target targets s with ⟨heq, -⟩ | ⟨heq, -, hnd⟩
    · rw [heq]
      exact ih hu fun tg htg => htyped tg (List.mem_cons_of_mem _ htg)
    · rw [heq]
      refine ih ?_ fun tg htg => htyped tg (List.mem_cons_of_mem _ htg)
      · have hdereg : ∀ hd, ((bound s (pairOf side h target)).registration hd).deregistering =
            (s.registration hd).deregistering := by
          intro hd
          obtain ⟨c, hc⟩ := bound_registration s (pairOf side h target) hd
          rw [hc]
        refine ⟨?_, ?_, ?_⟩
        · intro b hlt x
          by_cases hbb : b = s.nextBinding
          · subst hbb
            simpa [bound, Binding.new] using htyped target (List.mem_cons_self ..) x
          · have hlt' : b < s.nextBinding := Nat.lt_of_le_of_ne (Nat.le_of_lt_succ hlt) hbb
            simpa [bound, hbb] using hu.typed b hlt' x
        · intro b
          by_cases hbb : b = s.nextBinding
          · subst hbb
            simp [bound, Binding.new]
          · simpa [bound, hbb] using hu.met b
        · intro b hm hn hme x hd
          rw [hdereg] at hd
          by_cases hbb : b = s.nextBinding
          · subst hbb
            simp only [bound, Function.update_self, Binding.new] at hd
            rw [hnd x] at hd
            cases hd
          · have hm' : b ∈ s.bindings := by
              simpa [bound, hbb] using hm
            simp only [bound, Function.update_of_ne hbb] at hn hme hd ⊢
            exact hu.visit b hm' hn hme x hd

/-- The registrations that a scan pairs are of different kinds. -/
theorem Handles.pairOf_typed (hh : Handles s) {target : Handle} (hmem : h ∈ s.collection side)
    (htg : target ∈ s.collection side.other) (x : Side) :
    pairOf side h target x < s.nextHandle ∧ pairOf side h target x ∉ s.collection x.other := by
  unfold pairOf
  cases side <;> cases x <;> simp only [reduceCtorEq, if_true, if_false]
  · exact ⟨hh.lt _ _ hmem, hh.oneSide h hmem⟩
  · exact ⟨hh.lt _ _ htg, fun hc => hh.oneSide target hc htg⟩
  · exact ⟨hh.lt _ _ htg, hh.oneSide target htg⟩
  · exact ⟨hh.lt _ _ hmem, fun hc => hh.oneSide h hc hmem⟩

/-- The thread that visits a binding is another one than a thread that is idle. -/
theorem Unstranded.visit_of_idle (hu : Unstranded s) (hop : s.ops t = .idle)
    (hm : b ∈ s.bindings) (hn : ¬ (s.binding b).Begun) (hme : (s.binding b).metInStart = false)
    (hd : (s.registration ((s.binding b).registration side)).deregistering = true) :
    ∃ u, u ≠ t ∧ (s.ops u).Visits side ((s.binding b).registration side) b := by
  obtain ⟨u, hv⟩ := hu.visit b hm hn hme side hd
  refine ⟨u, ?_, hv⟩
  rintro rfl
  rw [hop] at hv
  exact hv

/-- A new registration has no binding yet. -/
theorem Unstranded.register (hu : Unstranded s) (hb : Bindings s) (hop : s.ops t = .idle)
    (registration : Registration) (life : Life) :
    Unstranded ({ s.setRegistration s.nextHandle registration with
        collection := Function.update s.collection side (s.collection side ++ [s.nextHandle])
        nextHandle := s.nextHandle + 1 }.setLife s.nextHandle life |>.setOp t
      (.performBind side s.nextHandle)) := by
  refine ⟨?_, hu.met, ?_⟩
  · intro b hlt x
    obtain ⟨hl, hno⟩ := hu.typed b hlt x
    refine ⟨Nat.lt_succ_of_lt hl, ?_⟩
    show _ ∉ Function.update s.collection side (s.collection side ++ [s.nextHandle]) x.other
    by_cases hx : x.other = side
    · rw [hx, Function.update_self]
      rw [hx] at hno
      intro hm
      rcases List.mem_append.mp hm with hm | hm
      · exact hno hm
      · exact Nat.ne_of_lt hl (List.mem_singleton.mp hm)
    · rwa [Function.update_of_ne hx]
  · intro b hm hn hme x hd
    have hne : (s.binding b).registration x ≠ s.nextHandle :=
      Nat.ne_of_lt (hu.typed b (hb.lt b hm) x).1
    have hd' : (s.registration ((s.binding b).registration x)).deregistering = true := by
      simpa [hne] using hd
    obtain ⟨u, hut, hv⟩ := hu.visit_of_idle hop hm hn hme hd'
    exact ⟨u, by simpa [hut] using hv⟩

/-- The bindings of a registration that is deactivated are visited by the thread that does it. -/
theorem Unstranded.deregister (hu : Unstranded s) (hb : Bindings s) (hop : s.ops t = .idle)
    (hmem : h ∈ s.collection side) (life : Life) :
    Unstranded ((s.setRegistration h { s.registration h with deregistering := true }).setLife h
      life |>.setOp t (.performUnbind side h)) := by
  refine ⟨hu.typed, hu.met, ?_⟩
  intro b hm hn hme x hd
  by_cases hx : (s.binding b).registration x = h
  · have hside : x = side := by
      rcases x.eq_or_eq_other side with hs | hs
      · exact hs.symm
      · exact absurd (hs ▸ hx ▸ hmem) (hu.typed b (hb.lt b hm) x).2
    refine ⟨t, ?_⟩
    simp only [State.setOp, Function.update_self]
    exact ⟨hside.symm, hx.symm⟩
  · have hd' : (s.registration ((s.binding b).registration x)).deregistering = true := by
      simpa [hx] using hd
    obtain ⟨u, hut, hv⟩ := hu.visit_of_idle hop hm hn hme hd'
    exact ⟨u, by simpa [hut] using hv⟩

/-- No attach ends well on a binding that a `begin_unbind` has found in `Start`. -/
def NoLateAttach (s : State) : Action → Prop
  | .attachReturn t true => ∀ b ∈ (s.ops t).inAttach, (s.binding b).metInStart = false
  | _ => True

theorem unstranded_attachSucceeds (hu : Unstranded s) (hb : Bindings s)
    (hg : NoLateAttach s (.attachReturn t true)) (he : Effect s (.attachReturn t true) s') :
    Unstranded s' := by
  cases he with
  | @attachSucceeds t side h b todo hop =>
    -- here the guard is used: no `begin_unbind` has passed over the binding
    have hme : (s.binding b).metInStart = false := hg b (by rw [hop]; rfl)
    have hst := (hb.attaching (t := t) (b := b) (by rw [hop]; rfl)).2
    refine hu.amend rfl rfl rfl rfl rfl rfl rfl rfl ?_ ?_ ?_
    · intro hme'
      exact absurd (hme.symm.trans hme') (by simp)
    · intro hm _ _
      exact ⟨fun hbe => hbe.not_start hst, hme, fun sd hv => by rw [hop] at hv; exact hv.elim⟩
    · intro b' hbb sd hd hv
      rw [hop] at hv
      exact hv.elim

theorem unstranded_beginUnbind (hu : Unstranded s) (hb : Bindings s)
    (he : Effect s (.beginUnbind t) s') : Unstranded s' := by
  cases he with
  | @passOver t side h pending b todo hop hnr =>
    refine hu.amend rfl rfl rfl rfl rfl rfl rfl rfl ?_ ?_ ?_
    · intro hme
      simp only [Bool.or_eq_true, beq_iff_eq] at hme
      rcases hme with hme | hst
      · exact hu.met b hme
      · show (s.binding b).status .client ≠ .ready
        rw [hst]
        simp
    · intro hm hn hme
      -- not begun and not ready means `Start`, and then the flag is set
      have hst : (s.binding b).status .client = .start := by
        rcases hb.start_or_ready hm hn with hr | hst
        · exact absurd (hr .provider) (hnr.resolve_left (not_not.mpr (hr .client)))
        · exact hst .client
      simp [hst] at hme
    · intro b' hbb sd hd hv
      rw [hop] at hv
      exact ⟨hv.1, hv.2.1, (List.mem_cons.mp hv.2.2).resolve_left hbb⟩
  | beginUnbind hop hready _ _ =>
    refine hu.amend rfl rfl rfl rfl rfl rfl rfl rfl ?_ ?_ ?_
    · intro _
      simp [Binding.setStatus]
    · intro hm hn
      refine absurd ?_ hn
      intro x
      simp [Binding.setStatus]
    · intro b' hbb sd hd hv
      rw [hop] at hv
      exact ⟨hv.1, hv.2.1, (List.mem_cons.mp hv.2.2).resolve_left hbb⟩

theorem unstranded_detachComplete (hu : Unstranded s) (hb : Bindings s) (hm : b ∈ s.bindings)
    (he : Effect s (.detachComplete t side b) s') : Unstranded s' := by
  cases he with
  | @detachComplete t side b hop _ hd =>
    have hbeg : (s.binding b).Begun := hb.begun_of_owed hd
    refine hu.amend rfl rfl rfl rfl rfl rfl rfl rfl ?_ ?_ ?_
    · intro _
      by_cases hx : Side.client = side.other
      · simp [hx]
      · simpa [Function.update_of_ne hx] using (hbeg .client).2
    · intro hm hn
      refine absurd ?_ hn
      intro x
      by_cases hx : x = side.other
      · simp [hx]
      · simpa [Function.update_of_ne hx] using hbeg x
    · intro b' hbb sd hd hv
      rw [hop] at hv
      exact hv.elim
  | detachInvalid _ hnot _ => exact absurd hm hnot

theorem unstranded_step (hu : Unstranded s) (hh : Handles s) (hb : Bindings s)
    (hg : NoLateAttach s a) (he : Effect s a s') : Unstranded s' := by
  have he' := he
  cases he with
  | register hop => exact hu.register hb hop _ _
  | @bindScan t side h hop =>
    have hmem := (hh.owned t side h _ (by rw [hop]; rfl)).1
    have hall := hu.bindAll (s.collection side.other) fun _ htg => hh.pairOf_typed hmem htg
    obtain ⟨-, -, hops, -, -⟩ := bindAll_frame side h (s.collection side.other) s
    refine hall.quiet rfl rfl rfl (fun sd => List.Subset.refl _) (List.Subset.refl _) rfl
      (fun hd => id) ?_
    intro b hm sd hv
    rw [hops, hop] at hv
    exact hv.elim
  | attach hop | registerReturn hop | removeBlocks hop _ | wait hop _ _ | detachInvalid hop _ _ =>
    refine hu.quiet rfl rfl rfl (fun sd => List.Subset.refl _) (List.Subset.refl _) rfl
      (fun hd => id) ?_
    intro b hm sd hv
    rw [hop] at hv
    exact hv.elim
  | clientAttachProvider hop _ | providerAttachReturn hop =>
    refine hu.amend rfl rfl rfl rfl rfl rfl rfl rfl (hu.met _) ?_ ?_
    · intro hm hn hme
      exact ⟨hn, hme, fun sd hv => by rw [hop] at hv; exact hv.elim⟩
    · intro b' hbb sd hd hv
      rw [hop] at hv
      exact hv.elim
  | @attachInvalid t _ _ _ _ _ _ _ =>
    exact hu.quiet (Function.update_eq_self t s.ops).symm rfl rfl (fun sd => List.Subset.refl _)
      (List.Subset.refl _) rfl (fun hd => id) fun b hm sd => id
  | attachSucceeds => exact unstranded_attachSucceeds hu hb hg he'
  | attachFails hop | finishDetach hop =>
    refine hu.quiet rfl rfl rfl (fun sd => List.Subset.refl _) (List.erase_subset ..) rfl ?_ ?_
    · intro hd hd'
      exact dropReferences_deregistering _ _ hd ▸ hd'
    · intro b hm sd hv
      rw [hop] at hv
      exact hv.elim
  | deregister hop hmem hl => exact hu.deregister hb hop hmem _
  | @unbindScan t order side h hop horder =>
    refine hu.quiet rfl rfl rfl (fun sd => List.Subset.refl _) (List.Subset.refl _) rfl
      (fun hd => id) ?_
    intro b hm sd hv
    rw [hop] at hv
    -- what the thread was about to find is in its list now
    refine ⟨hv.1, hv.2, horder.mem_iff.mpr (List.mem_filter.mpr ⟨hm, ?_⟩)⟩
    simp [Binding.pairHas, hv.1, hv.2]
  | passOver | beginUnbind => exact unstranded_beginUnbind hu hb he'
  | @clientDetachReturn t clientPending side h pending todo b d log stage hop _ _ _
  | @providerDetachReturn t providerPending side h pending todo b clientPending hop _ =>
    refine hu.amend rfl rfl rfl rfl rfl rfl rfl rfl (hu.met b) ?_ ?_
    · intro hm hn
      exact absurd (hb.begun t b (by rw [hop]; exact detaching_unbinds)) hn
    · intro b' hbb sd hd hv
      rw [hop] at hv
      exact hv
  | @commit t side h pending todo b clientPending providerPending hop =>
    have hbeg := (s.binding b).commit_begun clientPending providerPending
    refine hu.amend rfl rfl rfl rfl rfl rfl rfl rfl (fun _ => (hbeg .client).2) ?_ ?_
    · intro hm hn
      exact absurd hbeg hn
    · intro b' hbb sd hd hv
      rw [hop] at hv
      split <;> exact hv
  | finishUnbind hop =>
    refine hu.quiet rfl rfl rfl (fun sd => List.Subset.refl _) (List.erase_subset ..) rfl ?_ ?_
    · intro hd hd'
      exact dropReferences_deregistering _ _ hd ▸ hd'
    · intro b hm sd hv
      rw [hop] at hv
      exact hv
  | unbindPending hop | unbindDone hop =>
    refine hu.quiet rfl rfl rfl (fun sd => List.Subset.refl _) (List.Subset.refl _) rfl
      (fun hd => id) ?_
    intro b hm sd hv
    rw [hop] at hv
    exact absurd hv.2.2 List.not_mem_nil
  | remove hop _ | wake hop _ =>
    refine hu.quiet rfl rfl rfl (erase_collection_subset s _ _) (List.Subset.refl _) rfl
      (fun hd => id) ?_
    intro b hm sd hv
    rw [hop] at hv
    exact hv.elim
  | detachComplete _ hm _ => exact unstranded_detachComplete hu hb hm he'

/-! ## Runs -/

/-- No thread is inside an operation, blocked waits in `remove` apart. -/
def Quiescent (s : State) : Prop :=
  ∀ t, s.ops t = .idle ∨ ∃ side h call, s.ops t = .blocked side h call

/-- In a quiescent state, a binding of a deregistering client or provider has a detach pending. -/
def NotStranded (s : State) : Prop :=
  Quiescent s → ∀ b ∈ s.bindings, ∀ side,
    (s.registration ((s.binding b).registration side)).deregistering = true →
      ∃ x, (s.binding b).status x = .unbindPending

def TimelyAttach (s : State) (a : Action) : Prop := Contract s a ∧ NoLateAttach s a

instance (s : State) (a : Action) : Decidable (TimelyAttach s a) :=
  match a with
  | .attachReturn t true =>
    inferInstanceAs (Decidable (_ ∧ ∀ b ∈ (s.ops t).inAttach, (s.binding b).metInStart = false))
  | .attachReturn _ false | .register .. | .bindScan _ | .attach _ | .clientAttachProvider ..
  | .providerAttachReturn .. | .registerReturn _ | .deregister .. | .unbindScan ..
  | .beginUnbind _ | .clientDetachReturn .. | .providerDetachReturn .. | .commit _ | .finish _
  | .unbindReturn _ | .remove _ | .wake _ | .wait .. | .detachComplete .. =>
    inferInstanceAs (Decidable (_ ∧ True))

/-- Nobody is at work on anything in a quiescent state. -/
theorem Quiescent.no_work (hq : Quiescent s) (t : Tid) :
    (s.ops t).attachList = [] ∧ (∀ b, ¬ (s.ops t).Unbinds b) ∧
      ∀ side h b, ¬ (s.ops t).Visits side h b := by
  rcases hq t with hop | ⟨side, h, call, hop⟩
  · rw [hop]
    exact ⟨rfl, not_unbinds_of_none rfl rfl, fun _ _ _ => id⟩
  · rw [hop]
    exact ⟨rfl, not_unbinds_of_none rfl rfl, fun _ _ _ => id⟩

theorem notStranded_of_unstranded (hu : Unstranded s) (hb : Bindings s) : NotStranded s := by
  intro hq b hm side hd
  rcases hb.at_rest (fun u => (hq.no_work u).1) (fun u => (hq.no_work u).2.1 b) hm with
    hr | ⟨x, hx, -⟩
  · have hn : ¬ (s.binding b).Begun := fun hbe => (hbe .client).2 (hr .client)
    have hme : (s.binding b).metInStart = false := by
      by_contra hme
      exact hu.met b (by simpa using hme) (hr .client)
    obtain ⟨u, hv⟩ := hu.visit b hm hn hme side hd
    exact absurd hv ((hq.no_work u).2.2 side _ b)
  · exact ⟨x, hx⟩

/--
Whatever the threads do, and whenever completions arrive: if no attach ends well on a binding that
a `begin_unbind` has found in `Start`, then no deregistration strands a binding.
-/
theorem deregistration_not_stranded (as : List Action) (s : State)
    (hg : Guarded step TimelyAttach State.init as)
    (hs : exec step State.init as = some s) : NotStranded s := by
  have hinv : Handles s ∧ Bindings s ∧ Unstranded s := by
    refine exec_invariant_of_guard (P := fun s => Handles s ∧ Bindings s ∧ Unstranded s) ?_
      ⟨handles_init, bindings_init, unstranded_init⟩ hg hs
    rintro s a s' ⟨hh, hb, hu⟩ ⟨hc, hl⟩ hstep
    have he := step_effect hh hc hstep
    exact ⟨handles_step hh he, bindings_step hb he, unstranded_step hu hh hb hl he⟩
  exact notStranded_of_unstranded hinv.2.2 hinv.2.1

/-- A provider deregisters while a client that attaches to it is between two callbacks; the client
answers late, and its attach fails. -/
def failedAttachRun : List Action :=
  [.register 0 .provider (some 5) true, .bindScan 0, .registerReturn 0,
   .register 1 .client (some 5) true, .bindScan 1, .attach 1,
   .deregister 0 .provider 1, .unbindScan 0 [0], .beginUnbind 0, .unbindReturn 0,
   .attachReturn 1 false, .registerReturn 1, .wait 0 .provider 1, .remove 0]

theorem failedAttachRun_not_stranded :
    ∃ s, exec step State.init failedAttachRun = some s ∧ s.collection .provider = [] ∧
      NotStranded s := by
  obtain ⟨s, hs, hx⟩ : ∃ s, exec step State.init failedAttachRun = some s ∧
      s.collection .provider = [] := exec_of_check (by decide +kernel)
  exact ⟨s, hs, hx, deregistration_not_stranded failedAttachRun s
    (guarded_of_check (by decide +kernel)) hs⟩

/-- The same with an attach that ends well. -/
def lateAttachRun : List Action :=
  [.register 0 .provider (some 5) true, .bindScan 0, .registerReturn 0,
   .register 1 .client (some 5) true, .bindScan 1, .attach 1,
   .deregister 0 .provider 1, .unbindScan 0 [0], .beginUnbind 0, .unbindReturn 0,
   .attachReturn 1 true, .registerReturn 1]

theorem attach_after_passOver :
    ∃ s, exec step State.init lateAttachRun = some s ∧
      Guarded step Contract State.init lateAttachRun ∧ ¬ NotStranded s := by
  have hg : Guarded step Contract State.init lateAttachRun :=
    guarded_of_check (by decide +kernel)
  obtain ⟨s, hs, h0, h1, hm, hd, hc, hp⟩ : ∃ s, exec step State.init lateAttachRun = some s ∧
      (s.ops 0).isIdle = true ∧ (s.ops 1).isIdle = true ∧ 0 ∈ s.bindings ∧
      (s.registration ((s.binding 0).registration .provider)).deregistering = true ∧
      (s.binding 0).status .client = .ready ∧ (s.binding 0).status .provider = .ready :=
    exec_of_check (by decide +kernel)
  refine ⟨s, hs, hg, ?_⟩
  intro hn
  have hq : Quiescent s := fun t => Or.inl (allReturned_of_two hg hs (by decide) h0 h1 t)
  obtain ⟨x, hx⟩ := hn hq 0 hm .provider hd
  cases x
  · rw [hc] at hx
    cases hx
  · rw [hp] at hx
    cases hx

end Usersim.Nmr
