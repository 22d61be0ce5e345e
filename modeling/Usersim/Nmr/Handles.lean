import Usersim.Nmr.Basic

/-!
# Handles and the calls that own them

A thread inside a call owns the handle of the call: `life` says which thread, and in which part of
its life the handle is. So no two calls are ever at work on one handle, and the lookups of the
code never fail. `Effect` lists what an action does once that is known; everything else about the
registrar is proved from it.
-/

namespace Usersim.Nmr

open Lib

/-- The handle an operation works on, and the part of its life it is in then. -/
def Op.owned (op : Op) (t : Tid) : Option (Side × Handle × Life) :=
  match op with
  | .idle | .detachComplete _ => none
  | .performBind side h => some (side, h, .adding t)
  | .attaching side h _ | .inClientAttach side h _ _ | .inProviderAttach side h _ _ =>
    some (side, h, .registering t)
  | .performUnbind side h | .unbinding side h _ _ | .beginUnbind side h _ _ _ _ =>
    some (side, h, .deregistering t)
  | .remove side h .deregister | .blocked side h .deregister => some (side, h, .deregistering t)
  | .remove side h .wait | .blocked side h .wait => some (side, h, .waiting t)

def Life.owner : Life → Option Tid
  | .adding t | .registering t | .deregistering t | .waiting t => some t
  | .unborn | .registered | .pending | .gone => none

theorem Op.owned_owner {op : Op} {t : Tid} {side : Side} {h : Handle} {l : Life}
    (ho : op.owned t = some (side, h, l)) : l.owner = some t := by
  cases op with
  | idle => cases ho
  | detachComplete => cases ho
  | remove _ _ call => cases call <;> cases ho <;> rfl
  | blocked _ _ call => cases call <;> cases ho <;> rfl
  | _ => cases ho; rfl

structure Handles (s : State) : Prop where
  lt : ∀ side, ∀ h ∈ s.collection side, h < s.nextHandle
  nodup : ∀ side, (s.collection side).Nodup
  oneSide : ∀ h, h ∈ s.collection .client → h ∉ s.collection .provider
  alive : ∀ side, ∀ h ∈ s.collection side, s.life h ≠ .unborn ∧ s.life h ≠ .gone
  unborn : ∀ h, s.nextHandle ≤ h → s.life h = .unborn
  owned : ∀ t side h l, (s.ops t).owned t = some (side, h, l) →
    h ∈ s.collection side ∧ s.life h = l

theorem handles_init : Handles State.init where
  lt := fun _ _ h => absurd h List.not_mem_nil
  nodup := fun _ => List.nodup_nil
  oneSide := fun _ h => absurd h List.not_mem_nil
  alive := fun _ _ h => absurd h List.not_mem_nil
  unborn := fun _ _ => rfl
  owned := fun _ _ _ _ h => by cases h

/-- The handle of a thread in `remove`. -/
theorem Handles.of_remove {s : State} {t : Tid} {side : Side} {h : Handle} {call : RemoveCall}
    (hs : Handles s) (hop : s.ops t = .remove side h call ∨ s.ops t = .blocked side h call) :
    h ∈ s.collection side := by
  obtain ⟨l, ho⟩ : ∃ l, (s.ops t).owned t = some (side, h, l) := by
    rcases hop with hop | hop <;> rw [hop] <;> cases call <;> exact ⟨_, rfl⟩
  exact (hs.owned t side h l ho).1

/-! ## Parts of critical sections -/

/-- The clean-up callback that `unbind_complete` makes for one side. -/
def cleanupsOf (s : State) (b : BindingId) (side : Side) : List Event :=
  match (s.binding b).context side with
  | some context =>
    if (s.registration ((s.binding b).registration side)).hasCleanup then
      [.cleanup side b ((s.binding b).registration side) context]
    else []
  | none => []

theorem cleanUpContext_eq (s : State) (b : BindingId) (side : Side) :
    cleanUpContext s b side = { s with log := cleanupsOf s b side ++ s.log } := by
  unfold cleanUpContext cleanupsOf
  cases (s.binding b).context side with
  | none => rfl
  | some context =>
    dsimp only
    split <;> rfl

theorem mem_cleanupsOf {s : State} {b : BindingId} {side : Side} {e : Event}
    (he : e ∈ cleanupsOf s b side) :
    ∃ context, (s.binding b).context side = some context ∧
      e = .cleanup side b ((s.binding b).registration side) context := by
  unfold cleanupsOf at he
  split at he
  · next context hc =>
    split at he
    · exact ⟨context, hc, List.mem_singleton.mp he⟩
    · cases he
  · cases he

/-- Both references of a binding are dropped. -/
def dropReferences (s : State) (b : BindingId) : Handle → Registration :=
  ((s.addCount ((s.binding b).registration .provider) (-1)).addCount
    ((s.binding b).registration .client) (-1)).registration

theorem addCount_registration (s : State) (h : Handle) (d : Int) (x : Handle) :
    ∃ c, (s.addCount h d).registration x = { s.registration x with bindingCount := c } := by
  by_cases hx : x = h
  · exact ⟨(s.registration x).bindingCount + d, by simp [State.addCount, hx]⟩
  · exact ⟨(s.registration x).bindingCount, by simp [State.addCount, hx]⟩

theorem dropReferences_registration (s : State) (b : BindingId) (x : Handle) :
    ∃ c, dropReferences s b x = { s.registration x with bindingCount := c } := by
  obtain ⟨c, hc⟩ := addCount_registration s ((s.binding b).registration .provider) (-1) x
  obtain ⟨c', hc'⟩ := addCount_registration (s.addCount ((s.binding b).registration .provider) (-1))
    ((s.binding b).registration .client) (-1) x
  exact ⟨c', by rw [dropReferences, hc', hc]⟩

/-- What one call of `unbind_complete` records, newest first. -/
def completionOf (s : State) (b : BindingId) : List Event :=
  .unbindComplete b ((s.binding b).registration .client) ((s.binding b).registration .provider) ::
    (cleanupsOf s b .provider ++ cleanupsOf s b .client)

theorem unbindComplete_eq (s : State) (b : BindingId) :
    unbindComplete s b =
      { s with
        registration := dropReferences s b
        bindings := s.bindings.erase b
        log := completionOf s b ++ s.log } := by
  simp only [unbindComplete, cleanUpContext_eq, completionOf, List.cons_append, List.append_assoc]
  rfl

/-- `begin_unbind` marks the detach it calls, or skips, and records the call. -/
theorem callProviderDetach_eq (s : State) (b : BindingId) (x : Binding) (clientPending : Bool) :
    ∃ d log stage, callProviderDetach (s.setBinding b x) b clientPending =
        ({ s with binding := Function.update s.binding b { x with detach := d }, log }, stage) ∧
      (log = s.log ∨ ∃ y, log = .detachCalled y b (x.registration y) :: s.log) := by
  unfold callProviderDetach
  split
  · refine ⟨Function.update x.detach .provider .running, _, .inProvider clientPending, ?_,
      Or.inr ⟨.provider, rfl⟩⟩
    simp [Binding.setDetach]
  · refine ⟨Function.update x.detach .provider .done, _, .commit clientPending false,
      ?_, Or.inl rfl⟩
    simp [Binding.setDetach]

theorem callClientDetach_eq (s : State) (b : BindingId) (x : Binding) :
    ∃ d log stage, callClientDetach (s.setBinding b x) b =
        ({ s with binding := Function.update s.binding b { x with detach := d }, log }, stage) ∧
      (log = s.log ∨ ∃ y, log = .detachCalled y b (x.registration y) :: s.log) := by
  unfold callClientDetach
  split
  · refine ⟨Function.update x.detach .client .running, _, .inClient, ?_, Or.inr ⟨.client, rfl⟩⟩
    simp [Binding.setDetach]
  · obtain ⟨d, log, stage, heq, hlog⟩ := callProviderDetach_eq s b (x.setDetach .client .done) false
    refine ⟨d, log, stage, ?_, hlog⟩
    simpa only [State.setBinding, Function.update_self, Function.update_idem, Binding.setDetach]
      using heq

/-- The state after a binding was made for the pair. -/
def bound (s : State) (pair : Side → Handle) : State :=
  { s with
    registration := ((s.addCount (pair .client) 1).addCount (pair .provider) 1).registration
    binding := Function.update s.binding s.nextBinding (.new pair)
    bindings := s.bindings ++ [s.nextBinding]
    nextBinding := s.nextBinding + 1 }

theorem bound_registration (s : State) (pair : Side → Handle) (x : Handle) :
    ∃ c, (bound s pair).registration x = { s.registration x with bindingCount := c } := by
  obtain ⟨c, hc⟩ := addCount_registration s (pair .client) 1 x
  obtain ⟨c', hc'⟩ := addCount_registration (s.addCount (pair .client) 1) (pair .provider) 1 x
  exact ⟨c', by rw [bound, hc', hc]⟩

theorem bind_cases (s : State) (pair : Side → Handle) :
    bind s pair = (s, none) ∧
        (s.Matches pair → ∃ side, (s.registration (pair side)).deregistering = true) ∨
      bind s pair = (bound s pair, some s.nextBinding) ∧ s.Matches pair ∧
        ∀ side, (s.registration (pair side)).deregistering = false := by
  unfold bind
  split
  · next hm => exact Or.inl ⟨rfl, fun h => absurd h hm⟩
  · next hm =>
    split
    · next hd =>
      refine Or.inl ⟨rfl, fun _ => ?_⟩
      rcases hd with hd | hd
      · exact ⟨.client, hd⟩
      · exact ⟨.provider, hd⟩
    · next hd =>
      push Not at hd
      refine Or.inr ⟨rfl, not_not.mp hm, fun side => ?_⟩
      cases side
      · simpa using hd.1
      · simpa using hd.2

theorem bindAll_nil (side : Side) (h : Handle) (s : State) : bindAll side h s [] = (s, []) := rfl

/-- One turn of the scan. -/
theorem bindAll_cons (side : Side) (h target : Handle) (targets : List Handle) (s : State) :
    (bindAll side h s (target :: targets) = bindAll side h s targets ∧
        (s.Matches (pairOf side h target) →
          ∃ x, (s.registration (pairOf side h target x)).deregistering = true)) ∨
      (bindAll side h s (target :: targets) =
          ((bindAll side h (bound s (pairOf side h target)) targets).1,
            s.nextBinding :: (bindAll side h (bound s (pairOf side h target)) targets).2) ∧
        s.Matches (pairOf side h target) ∧
        ∀ x, (s.registration (pairOf side h target x)).deregistering = false) := by
  rcases bind_cases s (pairOf side h target) with ⟨heq, hno⟩ | ⟨heq, hyes⟩
  · exact Or.inl ⟨by rw [bindAll, heq], hno⟩
  · exact Or.inr ⟨by rw [bindAll, heq], hyes⟩

/-- The scan touches only counts and bindings. -/
theorem bindAll_frame (side : Side) (h : Handle) (targets : List Handle) (s : State) :
    (bindAll side h s targets).1.collection = s.collection ∧
      (bindAll side h s targets).1.life = s.life ∧ (bindAll side h s targets).1.ops = s.ops ∧
      (bindAll side h s targets).1.nextHandle = s.nextHandle ∧
      (bindAll side h s targets).1.log = s.log := by
  induction targets generalizing s with
  | nil => exact ⟨rfl, rfl, rfl, rfl, rfl⟩
  | cons target targets ih =>
    rcases bindAll_cons side h target targets s with ⟨heq, -⟩ | ⟨heq, -⟩
    · rw [heq]
      exact ih s
    · rw [heq]
      exact ih (bound s (pairOf side h target))

theorem bindAll_registration (side : Side) (h : Handle) (targets : List Handle) (s : State)
    (x : Handle) : ∃ c, (bindAll side h s targets).1.registration x =
      { s.registration x with bindingCount := c } := by
  induction targets generalizing s with
  | nil => exact ⟨(s.registration x).bindingCount, rfl⟩
  | cons target targets ih =>
    rcases bindAll_cons side h target targets s with ⟨heq, -⟩ | ⟨heq, -⟩
    · rw [heq]
      exact ih s
    · rw [heq]
      obtain ⟨c, hc⟩ := bound_registration s (pairOf side h target) x
      obtain ⟨c', hc'⟩ := ih (bound s (pairOf side h target))
      exact ⟨c', by rw [hc', hc]⟩

/-! ## What an action does -/

/-- Everything an action can do in a state in which the lookups of handles succeed. -/
inductive Effect (s : State) : Action → State → Prop
  | register {t side npiId hasCleanup} (hop : s.ops t = .idle) :
      Effect s (.register t side npiId hasCleanup)
        ({ s.setRegistration s.nextHandle { Registration.empty with npiId, hasCleanup } with
            collection := Function.update s.collection side (s.collection side ++ [s.nextHandle])
            nextHandle := s.nextHandle + 1 }.setLife s.nextHandle (.adding t) |>.setOp t
          (.performBind side s.nextHandle))
  | bindScan {t side h} (hop : s.ops t = .performBind side h) :
      Effect s (.bindScan t)
        (((bindAll side h s (s.collection side.other)).1.setLife h (.registering t)).setOp t
          (.attaching side h (bindAll side h s (s.collection side.other)).2))
  | attach {t side h b todo} (hop : s.ops t = .attaching side h (b :: todo)) :
      Effect s (.attach t)
        ((s.emit (.attachCalled b ((s.binding b).registration .client)
          ((s.binding b).registration .provider))).setOp t (.inClientAttach side h b todo))
  | clientAttachProvider {t context side h b todo} (hop : s.ops t = .inClientAttach side h b todo)
      (hb : b ∈ s.bindings) :
      Effect s (.clientAttachProvider t context)
        (((s.setBinding b { s.binding b with
            context := Function.update (s.binding b).context .client context }).emit
          (.providerAttachCalled b ((s.binding b).registration .client)
            ((s.binding b).registration .provider))).setOp t (.inProviderAttach side h b todo))
  | attachInvalid {t context side h b todo} (hop : s.ops t = .inClientAttach side h b todo)
      (hb : b ∉ s.bindings) :
      Effect s (.clientAttachProvider t context) (s.emit (.invalidHandle t))
  | providerAttachReturn {t write side h b todo}
      (hop : s.ops t = .inProviderAttach side h b todo) :
      Effect s (.providerAttachReturn t write)
        ((s.setBinding b { s.binding b with
            context := Function.update (s.binding b).context .provider
              (write.getD ((s.binding b).context .provider)) }).setOp t
          (.inClientAttach side h b todo))
  | attachSucceeds {t side h b todo} (hop : s.ops t = .inClientAttach side h b todo) :
      Effect s (.attachReturn t true)
        (((s.setBinding b ((s.binding b).setStatus .ready)).emit
          (.attached b ((s.binding b).registration .client)
            ((s.binding b).registration .provider))).setOp t (.attaching side h todo))
  | attachFails {t side h b todo} (hop : s.ops t = .inClientAttach side h b todo) :
      Effect s (.attachReturn t false)
        ({ s with
            registration := dropReferences s b
            bindings := s.bindings.erase b
            log := completionOf s b ++ Event.attachFailed b ((s.binding b).registration .client)
              ((s.binding b).registration .provider) :: s.log }.setOp t (.attaching side h todo))
  | registerReturn {t side h} (hop : s.ops t = .attaching side h []) :
      Effect s (.registerReturn t)
        (((s.emit (.registered side h)).setLife h .registered).setOp t .idle)
  | deregister {t side h} (hop : s.ops t = .idle) (hh : h ∈ s.collection side)
      (hl : s.life h = .registered) :
      Effect s (.deregister t side h)
        ((s.setRegistration h { s.registration h with deregistering := true }).setLife h
          (.deregistering t) |>.setOp t (.performUnbind side h))
  | unbindScan {t order side h} (hop : s.ops t = .performUnbind side h)
      (horder : order.Perm (s.bindings.filter fun b => (s.binding b).pairHas side h)) :
      Effect s (.unbindScan t order) (s.setOp t (.unbinding side h false order))
  | passOver {t side h pending b todo} (hop : s.ops t = .unbinding side h pending (b :: todo))
      (hb : (s.binding b).status .client ≠ .ready ∨ (s.binding b).status .provider ≠ .ready) :
      Effect s (.beginUnbind t)
        ((s.setBinding b { s.binding b with
            metInStart := (s.binding b).metInStart ||
              (s.binding b).status .client == .start }).setOp
          t (.unbinding side h true todo))
  | beginUnbind {t side h pending b todo d log stage}
      (hop : s.ops t = .unbinding side h pending (b :: todo))
      (hb : ∀ x, (s.binding b).status x = .ready)
      (heq : callClientDetach (s.setBinding b ((s.binding b).setStatus .beginUnbind)) b =
        ({ s with
            binding := Function.update s.binding b
              { (s.binding b).setStatus .beginUnbind with detach := d }, log }, stage))
      (hlog : log = s.log ∨ ∃ y, log = .detachCalled y b ((s.binding b).registration y) :: s.log) :
      Effect s (.beginUnbind t)
        ({ s with
            binding := Function.update s.binding b
              { (s.binding b).setStatus .beginUnbind with detach := d }, log }.setOp t
          (.beginUnbind side h pending todo b stage))
  | clientDetachReturn {t clientPending side h pending todo b d log stage}
      (hop : s.ops t = .beginUnbind side h pending todo b .inClient)
      (hc : (s.binding b).detach .client = .completedEarly → clientPending = true)
      (heq : callProviderDetach (s.setBinding b ((s.binding b).setDetach .client
          (((s.binding b).detach .client).returned clientPending))) b clientPending =
        ({ s with
            binding := Function.update s.binding b { s.binding b with detach := d }, log }, stage))
      (hlog : log = s.log ∨ ∃ y, log = .detachCalled y b ((s.binding b).registration y) :: s.log) :
      Effect s (.clientDetachReturn t clientPending)
        ({ s with
            binding := Function.update s.binding b { s.binding b with detach := d }, log }.setOp t
          (.beginUnbind side h pending todo b stage))
  | providerDetachReturn {t providerPending side h pending todo b clientPending}
      (hop : s.ops t = .beginUnbind side h pending todo b (.inProvider clientPending))
      (hc : (s.binding b).detach .provider = .completedEarly → providerPending = true) :
      Effect s (.providerDetachReturn t providerPending)
        ((s.setBinding b ((s.binding b).setDetach .provider
            (((s.binding b).detach .provider).returned providerPending))).setOp t
          (.beginUnbind side h pending todo b (.commit clientPending providerPending)))
  | commit {t side h pending todo b clientPending providerPending}
      (hop : s.ops t = .beginUnbind side h pending todo b (.commit clientPending providerPending)) :
      Effect s (.commit t)
        ((s.setBinding b ((s.binding b).commit clientPending providerPending)).setOp t
          (if ((s.binding b).commit clientPending providerPending).isComplete then
            .beginUnbind side h pending todo b .finish
          else .unbinding side h true todo))
  | finishUnbind {t side h pending todo b}
      (hop : s.ops t = .beginUnbind side h pending todo b .finish) :
      Effect s (.finish t)
        ({ s with
            registration := dropReferences s b
            bindings := s.bindings.erase b
            log := completionOf s b ++ s.log }.setOp t (.unbinding side h pending todo))
  | finishDetach {t b} (hop : s.ops t = .detachComplete b) :
      Effect s (.finish t)
        ({ s with
            registration := dropReferences s b
            bindings := s.bindings.erase b
            log := completionOf s b ++ s.log }.setOp t .idle)
  | unbindPending {t side h} (hop : s.ops t = .unbinding side h true []) :
      Effect s (.unbindReturn t)
        (((s.emit (.deregistered side h true)).setLife h .pending).setOp t .idle)
  | unbindDone {t side h} (hop : s.ops t = .unbinding side h false []) :
      Effect s (.unbindReturn t) (s.setOp t (.remove side h .deregister))
  | removeBlocks {t side h call} (hop : s.ops t = .remove side h call)
      (hc : (s.registration h).bindingCount > 0) :
      Effect s (.remove t) (s.setOp t (.blocked side h call))
  | remove {t side h call} (hop : s.ops t = .remove side h call)
      (hc : (s.registration h).bindingCount ≤ 0) :
      Effect s (.remove t) (eraseRegistration s t side h call)
  | wake {t side h call} (hop : s.ops t = .blocked side h call)
      (hc : (s.registration h).bindingCount = 0) :
      Effect s (.wake t) (eraseRegistration s t side h call)
  | wait {t side h} (hop : s.ops t = .idle) (hh : h ∈ s.collection side)
      (hl : s.life h = .pending) :
      Effect s (.wait t side h) ((s.setLife h (.waiting t)).setOp t (.remove side h .wait))
  | detachComplete {t side b} (hop : s.ops t = .idle) (hb : b ∈ s.bindings)
      (hd : (s.binding b).detach side = .running ∨ (s.binding b).detach side = .pending) :
      Effect s (.detachComplete t side b)
        (((s.emit (.asserted side b
            ((s.binding b).detachStatus side == .unbindPending))).setBinding b
            { s.binding b with
              status := Function.update (s.binding b).status side.other .unbindComplete
              detach := Function.update (s.binding b).detach side
                (if (s.binding b).detach side = .running then .completedEarly else .done) }).setOp t
          (if (s.binding b).status side = .unbindComplete then .detachComplete b else .idle))
  | detachInvalid {t side b} (hop : s.ops t = .idle) (hb : b ∉ s.bindings)
      (hd : (s.binding b).detach side = .running ∨ (s.binding b).detach side = .pending) :
      Effect s (.detachComplete t side b) (throwInvalid s t)

variable {s s' : State} {a : Action} {t : Tid} {side : Side}

section Effect

-- the equations of the long match in `step` are made once, for all of these lemmas
attribute [local simp] step

theorem effect_bindScan (h : Handles s) (hs : step s (.bindScan t) = some s') :
    Effect s (.bindScan t) s' := by
  simp only [step] at hs
  split at hs
  · next side hd hop =>
    -- the handle that a thread registers cannot be gone
    rw [if_pos (h.owned t side hd _ (by rw [hop]; rfl)).1] at hs
    cases hs
    exact .bindScan hop
  · cases hs

theorem effect_clientAttachProvider {context : Option Ptr}
    (hs : step s (.clientAttachProvider t context) = some s') :
    Effect s (.clientAttachProvider t context) s' := by
  simp only [step] at hs
  split at hs
  · next hop =>
    split at hs
    · next hb =>
      cases hs
      exact .clientAttachProvider hop hb
    · next hb =>
      cases hs
      exact .attachInvalid hop hb
  · cases hs

theorem effect_attachReturn {success : Bool} (hs : step s (.attachReturn t success) = some s') :
    Effect s (.attachReturn t success) s' := by
  simp only [step] at hs
  split at hs
  · next hop =>
    cases success with
    | true =>
      cases hs
      exact .attachSucceeds hop
    | false =>
      rw [unbindComplete_eq] at hs
      cases hs
      exact .attachFails hop
  · cases hs

theorem effect_deregister {hd : Handle} (hc : Contract s (.deregister t side hd))
    (hs : step s (.deregister t side hd) = some s') : Effect s (.deregister t side hd) s' := by
  simp only [step] at hs
  split at hs
  · next hop =>
    rw [if_pos hc.1] at hs
    cases hs
    exact .deregister hop hc.1 hc.2
  · cases hs

theorem effect_unbindScan (h : Handles s) {order : List BindingId}
    (hs : step s (.unbindScan t order) = some s') : Effect s (.unbindScan t order) s' := by
  simp only [step] at hs
  split at hs
  · next side hd hop =>
    rw [if_pos (h.owned t side hd _ (by rw [hop]; rfl)).1] at hs
    split at hs
    · next horder =>
      cases hs
      exact .unbindScan hop horder
    · cases hs
  · cases hs

theorem effect_beginUnbind (hs : step s (.beginUnbind t) = some s') :
    Effect s (.beginUnbind t) s' := by
  simp only [step] at hs
  split at hs
  · next b todo hop =>
    split at hs
    · next hb =>
      cases hs
      exact .passOver hop hb
    · next hb =>
      obtain ⟨d, log, stage, heq, hlog⟩ :=
        callClientDetach_eq s b ((s.binding b).setStatus .beginUnbind)
      rw [heq] at hs
      cases hs
      push Not at hb
      refine .beginUnbind hop (fun x => ?_) heq hlog
      cases x
      · exact hb.1
      · exact hb.2
  · cases hs

theorem effect_clientDetachReturn {clientPending : Bool}
    (hc : Contract s (.clientDetachReturn t clientPending))
    (hs : step s (.clientDetachReturn t clientPending) = some s') :
    Effect s (.clientDetachReturn t clientPending) s' := by
  simp only [step] at hs
  split at hs
  · next b hop =>
    obtain ⟨d, log, stage, heq, hlog⟩ := callProviderDetach_eq s b ((s.binding b).setDetach .client
      (((s.binding b).detach .client).returned clientPending)) clientPending
    rw [heq] at hs
    cases hs
    exact .clientDetachReturn hop (hc _ (by rw [hop]; rfl)) heq hlog
  · cases hs

theorem effect_finish (hs : step s (.finish t) = some s') : Effect s (.finish t) s' := by
  simp only [step] at hs
  split at hs
  · next hop =>
    rw [unbindComplete_eq] at hs
    cases hs
    exact .finishUnbind hop
  · next hop =>
    rw [unbindComplete_eq] at hs
    cases hs
    exact .finishDetach hop
  · cases hs

theorem effect_unbindReturn (hs : step s (.unbindReturn t) = some s') :
    Effect s (.unbindReturn t) s' := by
  simp only [step] at hs
  split at hs
  · next hop =>
    cases hs
    exact .unbindPending hop
  · next hop =>
    cases hs
    exact .unbindDone hop
  · cases hs

theorem effect_remove (h : Handles s) (hs : step s (.remove t) = some s') :
    Effect s (.remove t) s' := by
  simp only [step] at hs
  split at hs
  · next side hd call hop =>
    -- one `remove` for each handle, so it is still there
    rw [if_pos (h.of_remove (Or.inl hop))] at hs
    split at hs
    · next hcount =>
      cases hs
      exact .removeBlocks hop hcount
    · next hcount =>
      cases hs
      exact .remove hop (Int.not_lt.mp hcount)
  · cases hs

theorem effect_wake (hs : step s (.wake t) = some s') : Effect s (.wake t) s' := by
  simp only [step] at hs
  split at hs
  · next hop =>
    split at hs
    · next hcount =>
      cases hs
      exact .wake hop hcount
    · cases hs
  · cases hs

theorem effect_detachComplete {b : BindingId} (hc : Contract s (.detachComplete t side b))
    (hs : step s (.detachComplete t side b) = some s') :
    Effect s (.detachComplete t side b) s' := by
  simp only [step] at hs
  split at hs
  · next hop =>
    split at hs
    · next hb =>
      cases hs
      exact .detachComplete hop hb hc
    · next hb =>
      cases hs
      exact .detachInvalid hop hb hc
  · cases hs

theorem step_effect (h : Handles s) (hc : Contract s a) (hs : step s a = some s') :
    Effect s a s' := by
  cases a with
  | register t side npiId hasCleanup =>
    simp only [step] at hs
    split at hs
    · next hop =>
      cases hs
      exact .register hop
    · cases hs
  | bindScan t => exact effect_bindScan h hs
  | attach t =>
    simp only [step] at hs
    split at hs
    · next hop =>
      cases hs
      exact .attach hop
    · cases hs
  | clientAttachProvider t context => exact effect_clientAttachProvider hs
  | providerAttachReturn t write =>
    simp only [step] at hs
    split at hs
    · next hop =>
      cases hs
      exact .providerAttachReturn hop
    · cases hs
  | attachReturn t success => exact effect_attachReturn hs
  | registerReturn t =>
    simp only [step] at hs
    split at hs
    · next hop =>
      cases hs
      exact .registerReturn hop
    · cases hs
  | deregister t side hd => exact effect_deregister hc hs
  | unbindScan t order => exact effect_unbindScan h hs
  | beginUnbind t => exact effect_beginUnbind hs
  | clientDetachReturn t clientPending => exact effect_clientDetachReturn hc hs
  | providerDetachReturn t providerPending =>
    simp only [step] at hs
    split at hs
    · next hop =>
      cases hs
      exact .providerDetachReturn hop (hc _ (by rw [hop]; rfl))
    · cases hs
  | commit t =>
    simp only [step] at hs
    split at hs
    · next hop =>
      cases hs
      exact .commit hop
    · cases hs
  | finish t => exact effect_finish hs
  | unbindReturn t => exact effect_unbindReturn hs
  | remove t => exact effect_remove h hs
  | wake t => exact effect_wake hs
  | wait t side hd =>
    simp only [step] at hs
    split at hs
    · next hop =>
      cases hs
      exact .wait hop hc.1 hc.2
    · cases hs
  | detachComplete t side b => exact effect_detachComplete hc hs

end Effect

/-! ## Every action keeps the owners apart -/

variable {op : Op} {h : Handle} {l : Life}

/-- No handle changes its place in life; the thread keeps its handle or gives it up. -/
theorem Handles.same (hs : Handles s) (hcol : s'.collection = s.collection)
    (hnext : s'.nextHandle = s.nextHandle) (hlife : s'.life = s.life)
    (hops : s'.ops = Function.update s.ops t op)
    (hown : op.owned t = none ∨ op.owned t = (s.ops t).owned t) : Handles s' := by
  refine ⟨?_, ?_, ?_, ?_, ?_, fun u sd hd l ho => ?_⟩
  · rw [hcol, hnext]
    exact hs.lt
  · rw [hcol]
    exact hs.nodup
  · rw [hcol]
    exact hs.oneSide
  · rw [hcol, hlife]
    exact hs.alive
  · rw [hnext, hlife]
    exact hs.unborn
  · rw [hcol, hlife]
    rw [hops] at ho
    by_cases hu : u = t
    · subst hu
      rw [Function.update_self] at ho
      rcases hown with hown | hown
      · rw [hown] at ho
        cases ho
      · exact hs.owned u sd hd l (hown ▸ ho)
    · rw [Function.update_of_ne hu] at ho
      exact hs.owned u sd hd l ho

/-- A handle that no other thread owns moves on in its life, and the thread takes or drops it. -/
theorem Handles.move (hs : Handles s) (hh : h ∈ s.collection side)
    (hfree : ∀ u, (s.life h).owner = some u → u = t) (hl : l ≠ .unborn ∧ l ≠ .gone)
    (hcol : s'.collection = s.collection) (hnext : s'.nextHandle = s.nextHandle)
    (hlife : s'.life = Function.update s.life h l) (hops : s'.ops = Function.update s.ops t op)
    (hown : ∀ x, op.owned t = some x → x = (side, h, l)) : Handles s' := by
  refine ⟨?_, ?_, ?_, ?_, ?_, fun u sd hd l' ho => ?_⟩
  · rw [hcol, hnext]
    exact hs.lt
  · rw [hcol]
    exact hs.nodup
  · rw [hcol]
    exact hs.oneSide
  · rw [hcol, hlife]
    intro sd hd hmem
    by_cases hhd : hd = h
    · subst hhd
      simpa using hl
    · rw [Function.update_of_ne hhd]
      exact hs.alive sd hd hmem
  · rw [hnext, hlife]
    intro hd hge
    have hne : hd ≠ h := by
      rintro rfl
      exact absurd (hs.lt side hd hh) (Nat.not_lt.mpr hge)
    rw [Function.update_of_ne hne]
    exact hs.unborn hd hge
  · rw [hcol, hlife]
    rw [hops] at ho
    by_cases hu : u = t
    · subst hu
      rw [Function.update_self] at ho
      cases hown _ ho
      exact ⟨hh, Function.update_self ..⟩
    · rw [Function.update_of_ne hu] at ho
      obtain ⟨hmem, hlu⟩ := hs.owned u sd hd l' ho
      have hne : hd ≠ h := by
        rintro rfl
        exact hu (hfree u (by rw [hlu]; exact Op.owned_owner ho))
      rw [Function.update_of_ne hne]
      exact ⟨hmem, hlu⟩

theorem Handles.add (hs : Handles s) {npiId : Option Nat} {hasCleanup : Bool} :
    Handles
      ({ s.setRegistration s.nextHandle { Registration.empty with npiId, hasCleanup } with
          collection := Function.update s.collection side (s.collection side ++ [s.nextHandle])
          nextHandle := s.nextHandle + 1 }.setLife s.nextHandle (.adding t) |>.setOp t
        (.performBind side s.nextHandle)) := by
  have hnew : ∀ sd, s.nextHandle ∉ s.collection sd := fun sd hm =>
    absurd (hs.lt sd _ hm) (Nat.lt_irrefl _)
  have hmem : ∀ sd hd, hd ∈ Function.update s.collection side
      (s.collection side ++ [s.nextHandle]) sd ↔
        hd ∈ s.collection sd ∨ sd = side ∧ hd = s.nextHandle := by
    intro sd hd
    by_cases hsd : sd = side
    · subst hsd
      simp
    · simp [hsd]
  refine ⟨fun sd hd hm => ?_, fun sd => ?_, fun hd hc hp => ?_, fun sd hd hm => ?_,
    fun hd hge => ?_, fun u sd hd l ho => ?_⟩
  · rcases (hmem sd hd).mp hm with hm | ⟨-, rfl⟩
    · exact Nat.lt_succ_of_lt (hs.lt sd hd hm)
    · exact Nat.lt_succ_self _
  · show (Function.update s.collection side (s.collection side ++ [s.nextHandle]) sd).Nodup
    by_cases hsd : sd = side
    · subst hsd
      rw [Function.update_self]
      exact List.nodup_append.mpr ⟨hs.nodup sd, by simp, fun x hx y hy hxy =>
        hnew sd (List.mem_singleton.mp hy ▸ hxy ▸ hx)⟩
    · rw [Function.update_of_ne hsd]
      exact hs.nodup sd
  · rcases (hmem _ hd).mp hc with hc | ⟨hside, rfl⟩
    · rcases (hmem _ hd).mp hp with hp | ⟨-, rfl⟩
      · exact hs.oneSide hd hc hp
      · exact hnew _ hc
    · rcases (hmem _ _).mp hp with hp | ⟨hside', -⟩
      · exact hnew _ hp
      · rw [← hside] at hside'
        cases hside'
  · show Function.update s.life s.nextHandle (.adding t) hd ≠ _ ∧ _
    rcases (hmem sd hd).mp hm with hm | ⟨-, rfl⟩
    · have hne : hd ≠ s.nextHandle := fun hne => hnew sd (hne ▸ hm)
      simp only [State.setOp, State.setLife, Function.update_of_ne hne]
      exact hs.alive sd hd hm
    · simp
  · have hne : hd ≠ s.nextHandle := fun hne => absurd (hne ▸ hge) (Nat.not_succ_le_self _)
    simp only [State.setOp, State.setLife, Function.update_of_ne hne]
    exact hs.unborn hd (Nat.le_of_succ_le hge)
  · simp only [State.setOp, State.setLife] at ho ⊢
    by_cases hu : u = t
    · subst hu
      rw [Function.update_self] at ho
      cases ho
      exact ⟨(hmem _ _).mpr (Or.inr ⟨rfl, rfl⟩), Function.update_self ..⟩
    · rw [Function.update_of_ne hu] at ho
      obtain ⟨hm, hl⟩ := hs.owned u sd hd l ho
      have hne : hd ≠ s.nextHandle := fun hne => hnew sd (hne ▸ hm)
      rw [Function.update_of_ne hne]
      exact ⟨(hmem _ _).mpr (Or.inl hm), hl⟩

theorem erase_collection_subset (s : State) (side : Side) (h : Handle) (sd : Side) :
    Function.update s.collection side ((s.collection side).erase h) sd ⊆ s.collection sd := by
  by_cases hsd : sd = side
  · subst hsd
    rw [Function.update_self]
    exact List.erase_subset ..
  · rw [Function.update_of_ne hsd]
    exact List.Subset.refl _

theorem Handles.erase (hs : Handles s) {call : RemoveCall}
    (ho : ∃ l, (s.ops t).owned t = some (side, h, l)) :
    Handles (eraseRegistration s t side h call) := by
  obtain ⟨l, ho⟩ := ho
  obtain ⟨hh, hl⟩ := hs.owned t side h l ho
  have hmem : ∀ sd hd, hd ∈ Function.update s.collection side ((s.collection side).erase h) sd →
      hd ∈ s.collection sd ∧ hd ≠ h := by
    intro sd hd hm
    by_cases hsd : sd = side
    · subst hsd
      rw [Function.update_self] at hm
      exact ((hs.nodup sd).mem_erase_iff.mp hm).symm
    · rw [Function.update_of_ne hsd] at hm
      refine ⟨hm, ?_⟩
      rintro rfl
      cases sd <;> cases side <;>
        first | exact hsd rfl | exact hs.oneSide _ hm hh | exact hs.oneSide _ hh hm
  have hmem' : ∀ sd hd, hd ∈ s.collection sd → hd ≠ h →
      hd ∈ Function.update s.collection side ((s.collection side).erase h) sd := by
    intro sd hd hm hne
    by_cases hsd : sd = side
    · subst hsd
      rw [Function.update_self]
      exact (List.mem_erase_of_ne hne).mpr hm
    · rwa [Function.update_of_ne hsd]
  unfold eraseRegistration
  refine ⟨fun sd hd hm => hs.lt sd hd (hmem sd hd hm).1, fun sd => ?_,
    fun hd hc hp => hs.oneSide hd (hmem _ hd hc).1 (hmem _ hd hp).1, fun sd hd hm => ?_,
    fun hd hge => ?_, fun u sd hd l' hu => ?_⟩
  · show (Function.update s.collection side ((s.collection side).erase h) sd).Nodup
    by_cases hsd : sd = side
    · subst hsd
      rw [Function.update_self]
      exact (hs.nodup sd).erase h
    · rw [Function.update_of_ne hsd]
      exact hs.nodup sd
  · obtain ⟨hm, hne⟩ := hmem sd hd hm
    simp only [State.setOp, State.setLife, State.emit, Function.update_of_ne hne]
    exact hs.alive sd hd hm
  · have hne : hd ≠ h := by
      rintro rfl
      exact absurd (hs.lt side hd hh) (Nat.not_lt.mpr hge)
    simp only [State.setOp, State.setLife, State.emit, Function.update_of_ne hne]
    exact hs.unborn hd hge
  · simp only [State.setOp, State.setLife, State.emit] at hu ⊢
    by_cases hut : u = t
    · subst hut
      rw [Function.update_self] at hu
      cases hu
    · rw [Function.update_of_ne hut] at hu
      obtain ⟨hm, hl'⟩ := hs.owned u sd hd l' hu
      have hne : hd ≠ h := by
        rintro rfl
        have h1 := Op.owned_owner ho
        have h2 := Op.owned_owner hu
        rw [← hl] at h1
        rw [← hl', h1] at h2
        exact hut (Option.some.inj h2).symm
      rw [Function.update_of_ne hne]
      exact ⟨hmem' sd hd hm hne, hl'⟩

theorem handles_step (hs : Handles s) (he : Effect s a s') : Handles s' := by
  cases he with
  | register _ => exact hs.add
  | @bindScan t side h hop =>
    obtain ⟨hcol, hlife, hops, hnext, -⟩ := bindAll_frame side h (s.collection side.other) s
    obtain ⟨hh, hl⟩ := hs.owned t side h _ (by rw [hop]; rfl)
    refine hs.move (l := .registering t) (t := t) hh (fun u hu => ?_) ⟨by simp, by simp⟩ hcol hnext
      (by simp only [State.setOp, State.setLife, hlife])
      (by simp only [State.setOp, State.setLife, hops]; rfl) fun x hx => ?_
    · rw [hl] at hu
      exact (Option.some.inj hu).symm
    · cases hx
      rfl
  | attach hop | clientAttachProvider hop _ | providerAttachReturn hop | attachSucceeds hop
  | attachFails hop | unbindScan hop _ | passOver hop _ | beginUnbind hop _ _ _
  | clientDetachReturn hop _ _ _ | providerDetachReturn hop _ | finishUnbind hop | unbindDone hop =>
    exact hs.same rfl rfl rfl rfl (Or.inr (by rw [hop]; rfl))
  | @attachInvalid t _ _ _ _ _ hop _ =>
    exact hs.same rfl rfl rfl (Function.update_eq_self t s.ops).symm (Or.inr rfl)
  | @registerReturn t side h hop =>
    obtain ⟨hh, hl⟩ := hs.owned t side h _ (by rw [hop]; rfl)
    refine hs.move (l := .registered) hh (fun u hu => ?_) ⟨by simp, by simp⟩ rfl rfl rfl rfl
      fun x hx => ?_
    · rw [hl] at hu
      exact (Option.some.inj hu).symm
    · cases hx
  | @deregister t side h _ hh hl =>
    refine hs.move (l := .deregistering t) hh (fun u hu => ?_) ⟨by simp, by simp⟩ rfl rfl rfl rfl
      fun x hx => ?_
    · rw [hl] at hu
      cases hu
    · cases hx
      rfl
  | commit hop =>
    refine hs.same rfl rfl rfl rfl (Or.inr ?_)
    rw [hop]
    split <;> rfl
  | finishDetach _ | detachInvalid _ _ _ => exact hs.same rfl rfl rfl rfl (Or.inl rfl)
  | @unbindPending t side h hop =>
    obtain ⟨hh, hl⟩ := hs.owned t side h _ (by rw [hop]; rfl)
    refine hs.move (l := .pending) hh (fun u hu => ?_) ⟨by simp, by simp⟩ rfl rfl rfl rfl
      fun x hx => ?_
    · rw [hl] at hu
      exact (Option.some.inj hu).symm
    · cases hx
  | @removeBlocks t side h call hop _ =>
    exact hs.same rfl rfl rfl rfl (Or.inr (by rw [hop]; cases call <;> rfl))
  | @remove t side h call hop _ | @wake t side h call hop _ =>
    exact hs.erase (by rw [hop]; cases call <;> exact ⟨_, rfl⟩)
  | @wait t side h _ hh hl =>
    refine hs.move (l := .waiting t) hh (fun u hu => ?_) ⟨by simp, by simp⟩ rfl rfl rfl rfl
      fun x hx => ?_
    · rw [hl] at hu
      cases hu
    · cases hx
      rfl
  | detachComplete _ _ _ =>
    refine hs.same rfl rfl rfl rfl (Or.inl ?_)
    split <;> rfl

/-! ## What no action changes -/

theorem Effect.nextHandle_le (he : Effect s a s') : s.nextHandle ≤ s'.nextHandle := by
  cases he with
  | register _ => exact Nat.le_succ _
  | @bindScan _ side h _ =>
    exact Nat.le_of_eq (bindAll_frame side h (s.collection side.other) s).2.2.2.1.symm
  | _ => exact Nat.le_refl _

/-- The characteristics of a registration never change. -/
theorem Effect.characteristics (he : Effect s a s') {x : Handle} (hx : x < s.nextHandle) :
    (s'.registration x).npiId = (s.registration x).npiId ∧
      (s'.registration x).hasCleanup = (s.registration x).hasCleanup := by
  cases he with
  | register _ => simp [Nat.ne_of_lt hx]
  | @bindScan _ side h _ =>
    obtain ⟨c, hc⟩ := bindAll_registration side h (s.collection side.other) s x
    simp [hc]
  | @deregister _ _ h _ _ _ =>
    by_cases hxh : x = h
    · simp [hxh]
    · simp [hxh]
  | @attachFails _ _ _ b _ _ | @finishUnbind _ _ _ _ _ b _ | @finishDetach _ b _ =>
    obtain ⟨c, hc⟩ := dropReferences_registration s b x
    simp [hc]
  | _ => exact ⟨rfl, rfl⟩

theorem update_registration {f : BindingId → Binding} {b : BindingId} {x : Binding}
    (hx : x.registration = (f b).registration) (b' : BindingId) :
    (Function.update f b x b').registration = (f b').registration := by
  by_cases hbb : b' = b
  · rw [hbb, Function.update_self, hx]
  · rw [Function.update_of_ne hbb]

/-- Only the scan of `perform_bind` makes bindings, and no binding changes its registrations. -/
theorem Effect.pairs (he : Effect s a s') (ha : ∀ t, a ≠ .bindScan t) :
    s'.nextBinding = s.nextBinding ∧
      ∀ b, (s'.binding b).registration = (s.binding b).registration := by
  cases he with
  | bindScan _ => exact absurd rfl (ha _)
  | clientAttachProvider _ _ | providerAttachReturn _ | attachSucceeds _ | passOver _ _
  | beginUnbind _ _ _ _ | clientDetachReturn _ _ _ _ | providerDetachReturn _ _ | commit _
  | detachComplete _ _ _ => exact ⟨rfl, update_registration rfl⟩
  | _ => exact ⟨rfl, fun _ => rfl⟩

def Life.isAdding : Life → Bool
  | .adding _ => true
  | _ => false

/-- The registration is through the scan of its own `perform_bind`. -/
def State.Scanned (s : State) (h : Handle) : Prop := (s.life h).isAdding = false

instance (s : State) (h : Handle) : Decidable (s.Scanned h) :=
  inferInstanceAs (Decidable (_ = _))

theorem adding_of_update {l : Life} (hl : l.isAdding = false) {x : Handle} {u : Tid}
    (hx : Function.update s.life h l x = .adding u) : s.life x = .adding u := by
  by_cases hxh : x = h
  · rw [hxh, Function.update_self] at hx
    rw [hx] at hl
    cases hl
  · rwa [Function.update_of_ne hxh] at hx

/-- Only `add` begins a registration. -/
theorem Effect.adding_cases (he : Effect s a s') {x : Handle} {u : Tid}
    (hx : s'.life x = .adding u) : s.life x = .adding u ∨ x = s.nextHandle ∧ u = a.tid ∧
      ∃ side, s'.ops u = .performBind side x := by
  cases he with
  | @register t side _ _ _ =>
    by_cases hxn : x = s.nextHandle
    · subst hxn
      simp only [State.setOp, State.setLife, Function.update_self] at hx
      cases hx
      exact Or.inr ⟨rfl, rfl, side, Function.update_self ..⟩
    · exact Or.inl (by simpa [hxn] using hx)
  | @bindScan _ side h _ =>
    obtain ⟨-, hlife, -, -, -⟩ := bindAll_frame side h (s.collection side.other) s
    simp only [State.setOp, State.setLife, hlife] at hx
    exact Or.inl (adding_of_update rfl hx)
  | registerReturn _ | deregister _ _ _ | unbindPending _ | remove _ _ | wake _ _ | wait _ _ _ =>
    exact Or.inl (adding_of_update rfl hx)
  | _ => exact Or.inl hx

theorem Effect.scanned (he : Effect s a s') {x : Handle} (hx : x < s.nextHandle)
    (hsc : s.Scanned x) : s'.Scanned x := by
  show (s'.life x).isAdding = false
  cases hl : s'.life x with
  | adding u =>
    rcases he.adding_cases hl with hl | ⟨rfl, -, -⟩
    · rw [State.Scanned, hl] at hsc
      cases hsc
    · exact absurd hx (Nat.lt_irrefl _)
  | _ => rfl

/-! ## Runs -/

/-- An action moves no thread but its own. -/
theorem Effect.ops_of_ne (he : Effect s a s') {u : Tid} (hu : u ≠ a.tid) : s'.ops u = s.ops u := by
  cases he with
  | @bindScan t side h _ =>
    have hops := (bindAll_frame side h (s.collection side.other) s).2.2.1
    have hut : u ≠ t := hu
    simp [hut, hops]
  | attachInvalid _ _ => rfl
  | _ => exact Function.update_of_ne hu ..

theorem run_ops_of_ne {as : List Action} (hs : Handles s) (hg : Guarded step Contract s as)
    (hr : exec step s as = some s') {u : Tid} (hu : ∀ a ∈ as, a.tid ≠ u) :
    s'.ops u = s.ops u := by
  have hboth : Guarded step (fun s a => Contract s a ∧ a.tid ≠ u) s as :=
    guarded_and.mpr ⟨hg, guarded_of_mem hu⟩
  refine (exec_invariant_of_guard (P := fun x => Handles x ∧ x.ops u = s.ops u) ?_ ⟨hs, rfl⟩
    hboth hr).2
  rintro x a y ⟨hx, hops⟩ ⟨hc, hne⟩ hstep
  have he := step_effect hx hc hstep
  exact ⟨handles_step hx he, (he.ops_of_ne hne.symm).trans hops⟩

theorem Op.eq_idle {op : Op} (h : op.isIdle = true) : op = .idle := by
  cases op <;> first | rfl | cases h

/-- All calls have returned. -/
def AllReturned (s : State) : Prop := ∀ t, s.ops t = .idle

/-- After a run of threads 0 and 1 only these two can be inside a call. -/
theorem allReturned_of_two {as : List Action} (hg : Guarded step Contract State.init as)
    (hr : exec step State.init as = some s) (hn : ∀ a ∈ as, a.tid = 0 ∨ a.tid = 1)
    (h0 : (s.ops 0).isIdle = true) (h1 : (s.ops 1).isIdle = true) : AllReturned s := by
  intro u
  by_cases hu0 : u = 0
  · exact hu0 ▸ Op.eq_idle h0
  · by_cases hu1 : u = 1
    · exact hu1 ▸ Op.eq_idle h1
    · refine run_ops_of_ne handles_init hg hr fun a ha => ?_
      rcases hn a ha with hta | hta
      · rw [hta]
        exact Ne.symm hu0
      · rw [hta]
        exact Ne.symm hu1

end Usersim.Nmr
