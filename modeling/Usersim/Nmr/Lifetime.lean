import Usersim.Nmr.Exclusive

/-!
# References to registrations

`bindings` holds references into `clients` and `providers`, and so do the threads that attach or
unbind outside the lock. `binding_count` is what keeps a registration alive: it is the number of
entries that name the registration (`Counted`), and `remove` waits until it is zero. After the
deregistration of a handle has ended nothing names the handle any more, neither the state nor any
later callback.
-/

namespace Usersim.Nmr

open Lib

/-- How many entries of `bindings` name the registration. -/
def State.entries (s : State) (side : Side) (h : Handle) : Nat :=
  s.bindings.countP fun b => (s.binding b).pairHas side h

structure Counted (s : State) : Prop where
  refs : ∀ b ∈ s.bindings, ∀ side, (s.binding b).registration side ∈ s.collection side
  count : ∀ side, ∀ h ∈ s.collection side, (s.registration h).bindingCount = s.entries side h

theorem counted_init : Counted State.init where
  refs := fun _ h => absurd h List.not_mem_nil
  count := fun _ _ h => absurd h List.not_mem_nil

variable {s s' : State} {a : Action} {t : Tid} {op : Op} {b : BindingId} {side : Side} {h : Handle}

theorem entries_eq_zero : s.entries side h = 0 ↔
    ∀ b ∈ s.bindings, (s.binding b).registration side ≠ h := by
  simp [State.entries, Binding.pairHas, List.countP_eq_zero]

theorem entries_congr (hb : s'.bindings = s.bindings)
    (hr : ∀ b ∈ s.bindings, (s'.binding b).registration = (s.binding b).registration) :
    s'.entries side h = s.entries side h := by
  unfold State.entries
  rw [hb]
  refine List.countP_congr ?_
  intro b hm
  rw [Binding.pairHas, Binding.pairHas, hr b hm]

/-- A handle is on one side only. -/
theorem Handles.side_unique (hs : Handles s) {x y : Side} (hx : h ∈ s.collection x)
    (hy : h ∈ s.collection y) : x = y := by
  cases x <;> cases y
  · rfl
  · exact absurd hy (hs.oneSide h hx)
  · exact absurd hx (hs.oneSide h hy)
  · rfl

/-! ## Counting -/

theorem addCount_count (s : State) (h h' : Handle) (d : Int) :
    ((s.addCount h d).registration h').bindingCount =
      (s.registration h').bindingCount + if h' = h then d else 0 := by
  by_cases hh : h' = h
  · subst hh
    simp [State.addCount]
  · simp [State.addCount, hh]

/-- Two counts are changed, of which the handle's own side decides which is its own. -/
theorem pairCount (hs : Handles s) {pair : Side → Handle} (hp : ∀ y, pair y ∈ s.collection y)
    (hh : h ∈ s.collection side) (d : Int) :
    ((if h = pair .client then d else 0) + if h = pair .provider then d else 0) =
      if pair side = h then d else 0 := by
  have hother : h ≠ pair side.other := by
    intro heq
    exact side.ne_other (hs.side_unique hh (heq ▸ hp side.other))
  cases side with
  | client =>
    rw [show (if h = pair .provider then d else 0) = 0 from if_neg hother, Int.add_zero]
    exact if_congr eq_comm rfl rfl
  | provider =>
    rw [show (if h = pair .client then d else 0) = 0 from if_neg hother, Int.zero_add]
    exact if_congr eq_comm rfl rfl

theorem Counted.create (hc : Counted s) (hs : Handles s) (hlt : ∀ b ∈ s.bindings, b < s.nextBinding)
    {pair : Side → Handle} (hp : ∀ y, pair y ∈ s.collection y) : Counted (bound s pair) := by
  have hold : ∀ b ∈ s.bindings, (bound s pair).binding b = s.binding b := by
    intro b hm
    exact Function.update_of_ne (Nat.ne_of_lt (hlt b hm)) ..
  have hnew : (bound s pair).binding s.nextBinding = .new pair := Function.update_self ..
  refine ⟨?_, ?_⟩
  · intro b hm y
    rcases List.mem_append.mp hm with hm | hm
    · rw [hold b hm]
      exact hc.refs b hm y
    · rw [List.mem_singleton.mp hm, hnew]
      exact hp y
  · intro sd hd hm
    have hentries : (bound s pair).entries sd hd =
        s.entries sd hd + if pair sd = hd then 1 else 0 := by
      have hcongr : s.bindings.countP (fun b => ((bound s pair).binding b).pairHas sd hd) =
          s.entries sd hd := by
        refine List.countP_congr ?_
        intro b hb
        rw [hold b hb]
      show (s.bindings ++ [s.nextBinding]).countP _ = _
      rw [List.countP_append, hcongr, List.countP_singleton, hnew]
      simp [Binding.new, Binding.pairHas]
    have hcount : ((bound s pair).registration hd).bindingCount =
        (s.registration hd).bindingCount + if pair sd = hd then 1 else 0 := by
      show (((s.addCount (pair .client) 1).addCount (pair .provider) 1).registration
        hd).bindingCount = _
      -- one of the two increments is for this side, the other for a handle of the other side
      rw [addCount_count, addCount_count, Int.add_assoc, pairCount hs hp hm]
    rw [hcount, hentries, hc.count sd hd hm]
    split <;> simp

theorem Counted.bindAll (targets : List Handle) (hc : Counted s) (hs : Handles s)
    (hlt : ∀ b ∈ s.bindings, b < s.nextBinding) (hh : h ∈ s.collection side)
    (ht : ∀ target ∈ targets, target ∈ s.collection side.other) :
    Counted (bindAll side h s targets).1 := by
  induction targets generalizing s with
  | nil => exact hc
  | cons target targets ih =>
    rcases bindAll_cons side h target targets s with ⟨heq, -⟩ | ⟨heq, -⟩
    · rw [heq]
      exact ih hc hs hlt hh fun x hx => ht x (List.mem_cons_of_mem _ hx)
    · rw [heq]
      have hp : ∀ y, pairOf side h target y ∈ s.collection y := by
        intro y
        rcases side.eq_or_eq_other y with rfl | rfl
        · simpa [pairOf] using hh
        · simpa [pairOf, side.ne_other.symm] using ht target (List.mem_cons_self ..)
      refine ih (hc.create hs hlt hp) ?_ ?_ hh fun x hx => ht x (List.mem_cons_of_mem _ hx)
      -- `bind` touches no handle and no thread
      · exact hs.same (t := 0) rfl rfl rfl (Function.update_eq_self 0 s.ops).symm (Or.inr rfl)
      · intro b hm
        rcases List.mem_append.mp hm with hm | hm
        · exact Nat.lt_succ_of_lt (hlt b hm)
        · rw [List.mem_singleton.mp hm]
          exact Nat.lt_succ_self _

/-- `unbind_complete` drops the references of the entry it erases. -/
theorem Counted.unbindComplete (hc : Counted s) (hs : Handles s) (hm : b ∈ s.bindings) :
    Counted { s with registration := dropReferences s b, bindings := s.bindings.erase b } := by
  refine ⟨?_, ?_⟩
  · intro b' hm' y
    exact hc.refs b' (List.mem_of_mem_erase hm') y
  · intro sd hd hmem
    have hentries : s.entries sd hd =
        (s.bindings.erase b).countP (fun b => (s.binding b).pairHas sd hd) +
          if (s.binding b).registration sd = hd then 1 else 0 := by
      unfold State.entries
      -- count the erased entry first
      rw [(List.perm_cons_erase hm).countP_eq, List.countP_cons]
      simp [Binding.pairHas]
    have hcount : (dropReferences s b hd).bindingCount =
        (s.registration hd).bindingCount +
          if (s.binding b).registration sd = hd then (-1) else 0 := by
      rw [dropReferences, addCount_count, addCount_count, Int.add_assoc, Int.add_comm (ite _ _ _),
        pairCount hs (hc.refs b hm) hmem]
    show (dropReferences s b hd).bindingCount =
      ((s.bindings.erase b).countP fun b => (s.binding b).pairHas sd hd : Nat)
    rw [hcount, hc.count sd hd hmem, hentries]
    split <;> omega

/-! ## Every action -/

/-- Nothing that is counted changes. -/
theorem Counted.congr (hc : Counted s) (hcol : s'.collection = s.collection)
    (hb : s'.bindings = s.bindings)
    (hr : ∀ b ∈ s.bindings, (s'.binding b).registration = (s.binding b).registration)
    (hcount : ∀ h, (s'.registration h).bindingCount = (s.registration h).bindingCount) :
    Counted s' := by
  refine ⟨?_, ?_⟩
  · intro b hm y
    rw [hb] at hm
    rw [hcol, hr b hm]
    exact hc.refs b hm y
  · intro sd hd hm
    rw [hcol] at hm
    rw [hcount, hc.count sd hd hm, entries_congr hb hr]

/-- The same for an action that changes one binding. -/
theorem Counted.amend (hc : Counted s) {x : Binding} (hcol : s'.collection = s.collection)
    (hb : s'.bindings = s.bindings) (hbinding : s'.binding = Function.update s.binding b x)
    (hx : x.registration = (s.binding b).registration) (hreg : s'.registration = s.registration) :
    Counted s' := by
  refine hc.congr hcol hb ?_ (fun hd => by rw [hreg])
  intro b' _
  rw [hbinding]
  by_cases hbb : b' = b
  · rw [hbb, Function.update_self, hx]
  · rw [Function.update_of_ne hbb]

theorem Counted.add (hc : Counted s) (hs : Handles s) {npiId : Option Nat} {hasCleanup : Bool}
    {life : Handle → Life} {ops : Tid → Op} :
    Counted { s.setRegistration s.nextHandle { Registration.empty with npiId, hasCleanup } with
      collection := Function.update s.collection side (s.collection side ++ [s.nextHandle])
      nextHandle := s.nextHandle + 1, life, ops } := by
  have hne : ∀ sd, ∀ hd ∈ s.collection sd, hd ≠ s.nextHandle := by
    intro sd hd hm
    exact Nat.ne_of_lt (hs.lt sd hd hm)
  refine ⟨?_, ?_⟩
  · intro b hm y
    show (s.binding b).registration y ∈ Function.update s.collection side _ y
    have hold := hc.refs b hm y
    by_cases hy : y = side
    · subst hy
      rw [Function.update_self]
      exact List.mem_append_left _ hold
    · rwa [Function.update_of_ne hy]
  · intro sd hd hm
    have hmem : hd ∈ s.collection sd ∨ hd = s.nextHandle := by
      by_cases hsd : sd = side
      · subst hsd
        simpa using hm
      · exact Or.inl (by simpa [hsd] using hm)
    rcases hmem with hmem | rfl
    · simp only [State.setRegistration, Function.update_of_ne (hne sd hd hmem)]
      exact hc.count sd hd hmem
    · -- nothing names the new handle yet
      have hzero : s.entries sd s.nextHandle = 0 := by
        refine entries_eq_zero.mpr ?_
        intro b hb
        exact hne sd _ (hc.refs b hb sd)
      simp only [State.setRegistration, Function.update_self]
      show (0 : Int) = (s.entries sd s.nextHandle : Nat)
      rw [hzero]
      rfl

/-- `remove` erases a registration that no entry names. -/
theorem Counted.erase (hc : Counted s) {call : RemoveCall}
    (hh : h ∈ s.collection side) (hcount : (s.registration h).bindingCount ≤ 0) :
    Counted (eraseRegistration s t side h call) := by
  have hzero : s.entries side h = 0 := by
    have := hc.count side h hh
    omega
  unfold eraseRegistration
  refine ⟨?_, ?_⟩
  · intro b hm y
    show (s.binding b).registration y ∈
      Function.update s.collection side ((s.collection side).erase h) y
    by_cases hy : y = side
    · subst hy
      rw [Function.update_self]
      exact (List.mem_erase_of_ne (entries_eq_zero.mp hzero b hm)).mpr (hc.refs b hm y)
    · rw [Function.update_of_ne hy]
      exact hc.refs b hm y
  · intro sd hd hm
    exact hc.count sd hd (erase_collection_subset s side h sd hm)

theorem counted_step (hc : Counted s) (hs : Handles s) (hb : Bindings s) (hx : Exclusive s)
    (he : Effect s a s') : Counted s' := by
  cases he with
  | register hop => exact hc.add hs
  | @bindScan t side hd hop =>
    have hh := (hs.owned t side hd _ (by rw [hop]; rfl)).1
    have hall := hc.bindAll (s.collection side.other) hs hb.lt hh fun _ => id
    exact hall.congr rfl rfl (fun _ _ => rfl) fun _ => rfl
  | attach hop | attachInvalid hop _ | registerReturn hop | unbindScan hop _ | unbindPending hop
  | unbindDone hop | removeBlocks hop _ | wait hop _ _ | detachInvalid hop _ _ =>
    exact hc.congr rfl rfl (fun _ _ => rfl) fun _ => rfl
  | clientAttachProvider hop _ | providerAttachReturn hop | attachSucceeds hop | passOver hop _
  | beginUnbind hop _ _ _ | clientDetachReturn hop _ _ _ | providerDetachReturn hop _
  | commit hop | detachComplete hop _ _ =>
    exact hc.amend rfl rfl rfl rfl rfl
  | @attachFails t side hd b todo hop =>
    have hm : b ∈ s.bindings := (hb.attaching (t := t) (by rw [hop]; rfl)).1
    exact (hc.unbindComplete hs hm).congr rfl rfl (fun _ _ => rfl) fun _ => rfl
  | @deregister t side hd hop _ _ =>
    refine hc.congr rfl rfl (fun _ _ => rfl) ?_
    intro x
    by_cases hxd : x = hd
    · simp [hxd]
    · simp [hxd]
  | @finishUnbind t side hd pending todo b hop | @finishDetach t b hop =>
    have hm : b ∈ s.bindings := ((hx b).staged t .finish (by rw [hop]; exact if_pos rfl)).1
    exact (hc.unbindComplete hs hm).congr rfl rfl (fun _ _ => rfl) fun _ => rfl
  | remove hop hcount => exact hc.erase (hs.of_remove (Or.inl hop)) hcount
  | wake hop hcount => exact hc.erase (hs.of_remove (Or.inr hop)) (Int.le_of_eq hcount)

/-! ## What is recorded after the end of a deregistration -/

/-- The event reads the registration or calls one of its callbacks. -/
def Event.Names (h : Handle) : Event → Prop
  | .registered _ x | .detachCalled _ _ x | .cleanup _ _ x _ | .deregistered _ x _ | .waited _ x =>
    x = h
  | .attachCalled _ client provider | .providerAttachCalled _ client provider
  | .attached _ client provider | .attachFailed _ client provider
  | .unbindComplete _ client provider => client = h ∨ provider = h
  | .asserted .. | .invalidHandle _ => False

/-- `deregister_*` has returned false, or `wait_for_deregister_*` has returned. -/
def Event.Ends (h : Handle) : Event → Prop
  | .deregistered _ x pending => x = h ∧ pending = false
  | .waited _ x => x = h
  | _ => False

theorem Event.Ends.names {e : Event} (he : e.Ends h) : e.Names h := by
  cases e with
  | deregistered => exact he.1
  | waited => exact he
  | _ => exact he.elim

structure Ended (s : State) : Prop where
  out : ∀ e ∈ s.log, ∀ h, e.Ends h → h < s.nextHandle ∧ ∀ side, h ∉ s.collection side
  silent : s.log.Pairwise fun new old => ∀ h, old.Ends h → ¬ new.Names h

theorem ended_init : Ended State.init where
  out := fun _ h => absurd h List.not_mem_nil
  silent := .nil

/-- What an action records is about registered handles. -/
theorem Ended.record (hd : Ended s) (hs : Handles s) (new : List Event)
    (hlog : s'.log = new ++ s.log)
    (hnames : ∀ e ∈ new, ∀ h, e.Names h → ∃ side, h ∈ s.collection side)
    (hsilent : new.Pairwise fun new old => ∀ h, old.Ends h → ¬ new.Names h)
    (hends : ∀ e ∈ new, ∀ h, e.Ends h → ∀ side, h ∉ s'.collection side)
    (hnext : s.nextHandle ≤ s'.nextHandle)
    (hcol : ∀ side, ∀ h ∈ s'.collection side, h ∈ s.collection side ∨ h = s.nextHandle) :
    Ended s' := by
  refine ⟨?_, ?_⟩
  · intro e hm hd' he
    rw [hlog] at hm
    rcases List.mem_append.mp hm with hm | hm
    · obtain ⟨side, hmem⟩ := hnames e hm hd' he.names
      exact ⟨Nat.lt_of_lt_of_le (hs.lt side hd' hmem) hnext, hends e hm hd' he⟩
    · obtain ⟨hlt, hout⟩ := hd.out e hm hd' he
      refine ⟨Nat.lt_of_lt_of_le hlt hnext, ?_⟩
      intro side hmem
      rcases hcol side hd' hmem with hmem | rfl
      · exact hout side hmem
      · exact absurd hlt (Nat.lt_irrefl _)
  · rw [hlog]
    refine List.pairwise_append.mpr ⟨hsilent, hd.silent, ?_⟩
    intro e hm old hold h' he hn
    obtain ⟨side, hmem⟩ := hnames e hm h' hn
    exact (hd.out old hold h' he).2 side hmem

/-- An action that records no end of a deregistration. -/
theorem Ended.notes (hd : Ended s) (hs : Handles s) (new : List Event)
    (hlog : s'.log = new ++ s.log)
    (hnames : ∀ e ∈ new, ∀ h, e.Names h → ∃ side, h ∈ s.collection side)
    (hends : ∀ e ∈ new, ∀ h, ¬ e.Ends h) (hnext : s'.nextHandle = s.nextHandle)
    (hcol : s'.collection = s.collection) : Ended s' := by
  refine hd.record hs new hlog hnames ?_ ?_ (Nat.le_of_eq hnext.symm) ?_
  · exact List.pairwise_of_forall_mem_list fun e he old hold h' hend =>
      absurd hend (hends old hold h')
  · intro e hm h' hend
    exact absurd hend (hends e hm h')
  · intro side h' hm
    rw [hcol] at hm
    exact Or.inl hm

theorem Ended.quiet (hd : Ended s) (hs : Handles s) (hlog : s'.log = s.log)
    (hnext : s'.nextHandle = s.nextHandle) (hcol : s'.collection = s.collection) : Ended s' :=
  hd.notes hs [] hlog (fun _ h => absurd h List.not_mem_nil)
    (fun _ h => absurd h List.not_mem_nil) hnext hcol

theorem Ended.note (hd : Ended s) (hs : Handles s) {e : Event} (hlog : s'.log = e :: s.log)
    (hnames : ∀ x, e.Names x → ∃ side, x ∈ s.collection side) (hends : ∀ x, ¬ e.Ends x)
    (hnext : s'.nextHandle = s.nextHandle) (hcol : s'.collection = s.collection) : Ended s' := by
  refine hd.notes hs [e] hlog ?_ ?_ hnext hcol
  · intro e' he'
    rw [List.mem_singleton.mp he']
    exact hnames
  · intro e' he'
    rw [List.mem_singleton.mp he']
    exact hends

/-- An event about a binding that is still there. -/
theorem Counted.names (hc : Counted s) (hm : b ∈ s.bindings) {x : Handle}
    (hx : (s.binding b).registration .client = x ∨ (s.binding b).registration .provider = x) :
    ∃ side, x ∈ s.collection side := by
  rcases hx with rfl | rfl
  · exact ⟨.client, hc.refs b hm .client⟩
  · exact ⟨.provider, hc.refs b hm .provider⟩

theorem Ended.detachCalled (hd : Ended s) (hs : Handles s) (hc : Counted s) (hm : b ∈ s.bindings)
    (hlog : s'.log = s.log ∨ ∃ side,
      s'.log = .detachCalled side b ((s.binding b).registration side) :: s.log)
    (hnext : s'.nextHandle = s.nextHandle) (hcol : s'.collection = s.collection) : Ended s' := by
  rcases hlog with hlog | ⟨side, hlog⟩
  · exact hd.quiet hs hlog hnext hcol
  · refine hd.note hs hlog ?_ (fun _ => id) hnext hcol
    intro x hx
    exact ⟨side, hx ▸ hc.refs b hm side⟩

theorem Ended.completed (hd : Ended s) (hs : Handles s) (hc : Counted s) (hm : b ∈ s.bindings)
    (new : List Event) (hlog : s'.log = completionOf s b ++ (new ++ s.log))
    (hnames : ∀ e ∈ new, ∀ x, e.Names x →
      (s.binding b).registration .client = x ∨ (s.binding b).registration .provider = x)
    (hends : ∀ e ∈ new, ∀ x, ¬ e.Ends x) (hnext : s'.nextHandle = s.nextHandle)
    (hcol : s'.collection = s.collection) : Ended s' := by
  have hcompletion : ∀ e ∈ completionOf s b, ∀ x, (e.Names x →
      (s.binding b).registration .client = x ∨ (s.binding b).registration .provider = x) ∧
        ¬ e.Ends x := by
    intro e he x
    rcases List.mem_cons.mp he with rfl | he
    · exact ⟨id, id⟩
    · rcases List.mem_append.mp he with he | he
      · obtain ⟨context, -, rfl⟩ := mem_cleanupsOf he
        exact ⟨Or.inr, id⟩
      · obtain ⟨context, -, rfl⟩ := mem_cleanupsOf he
        exact ⟨Or.inl, id⟩
  refine hd.notes hs (completionOf s b ++ new) (hlog.trans (List.append_assoc ..).symm) ?_ ?_ hnext
    hcol
  · intro e he x hx
    rcases List.mem_append.mp he with he | he
    · exact hc.names hm ((hcompletion e he x).1 hx)
    · exact hc.names hm (hnames e he x hx)
  · intro e he x
    rcases List.mem_append.mp he with he | he
    · exact (hcompletion e he x).2
    · exact hends e he x

/-- The end of a deregistration. -/
theorem Ended.erase (hd : Ended s) (hs : Handles s) {call : RemoveCall}
    (hh : h ∈ s.collection side) : Ended (eraseRegistration s t side h call) := by
  -- whoever called `remove`, what it reports names the handle and nothing else
  obtain ⟨e, hlog, hname⟩ : ∃ e, (eraseRegistration s t side h call).log = e :: s.log ∧
      ∀ x, e.Names x → x = h := by
    cases call <;> exact ⟨_, rfl, fun x hx => hx.symm⟩
  refine hd.record hs [e] hlog ?_ (List.pairwise_singleton ..) ?_ (Nat.le_refl _) ?_
  · intro e he x hx
    cases List.mem_singleton.mp he
    exact ⟨side, hname x hx ▸ hh⟩
  · intro e he x hx sd hm
    cases List.mem_singleton.mp he
    rw [hname x hx.names] at hm
    have hsd : sd = side := hs.side_unique (erase_collection_subset s side h sd hm) hh
    subst hsd
    simp only [eraseRegistration, State.setOp, State.setLife, State.emit,
      Function.update_self] at hm
    exact ((hs.nodup sd).mem_erase_iff.mp hm).1 rfl
  · intro sd x hm
    exact Or.inl (erase_collection_subset s side h sd hm)

theorem ended_step (hd : Ended s) (hs : Handles s) (hb : Bindings s) (hx : Exclusive s)
    (hc : Counted s) (he : Effect s a s') : Ended s' := by
  have hstaged : ∀ {t b stage}, (s.ops t).stageOf b = some stage → b ∈ s.bindings :=
    fun hst => ((hx _).staged _ _ hst).1
  have howned : ∀ {t side h l}, (s.ops t).owned t = some (side, h, l) → h ∈ s.collection side :=
    fun ho => (hs.owned _ _ _ _ ho).1
  cases he with
  | @register t side npiId hasCleanup hop =>
    refine hd.record hs [] rfl (fun _ h => absurd h List.not_mem_nil) .nil
      (fun _ h => absurd h List.not_mem_nil) (Nat.le_succ _) ?_
    intro sd x hm
    by_cases hsd : sd = side
    · subst hsd
      simpa using hm
    · exact Or.inl (by simpa [hsd] using hm)
  | @bindScan t side hd' hop =>
    obtain ⟨hcol, -, -, hnext, hlog⟩ := bindAll_frame side hd' (s.collection side.other) s
    exact hd.quiet hs hlog hnext hcol
  | @attach t side hd' b todo hop | @attachSucceeds t side hd' b todo hop =>
    have hm : b ∈ s.bindings := (hb.attaching (t := t) (by rw [hop]; rfl)).1
    exact hd.note hs rfl (fun _ => hc.names hm) (fun _ => id) rfl rfl
  | @clientAttachProvider t context side hd' b todo hop hm =>
    exact hd.note hs rfl (fun _ => hc.names hm) (fun _ => id) rfl rfl
  | attachInvalid hop _ | detachComplete hop _ _ | detachInvalid hop _ _ =>
    exact hd.note hs rfl (fun _ => False.elim) (fun _ => id) rfl rfl
  | providerAttachReturn hop | deregister hop _ _ | unbindScan hop _ | passOver hop _
  | providerDetachReturn hop _ | commit hop | unbindDone hop | removeBlocks hop _ | wait hop _ _ =>
    exact hd.quiet hs rfl rfl rfl
  | @attachFails t side hd' b todo hop =>
    have hm : b ∈ s.bindings := (hb.attaching (t := t) (by rw [hop]; rfl)).1
    refine hd.completed hs hc hm [_] rfl ?_ ?_ rfl rfl
    · intro e he x hx'
      cases List.mem_singleton.mp he
      exact hx'
    · intro e he x
      cases List.mem_singleton.mp he
      exact id
  | @registerReturn t side hd' hop =>
    have hh : hd' ∈ s.collection side := howned (t := t) (by rw [hop]; rfl)
    refine hd.note hs rfl ?_ (fun _ => id) rfl rfl
    intro x hx'
    exact ⟨side, hx' ▸ hh⟩
  | @beginUnbind t side hd' pending b todo d log stage hop hready _ hlog =>
    have hm : b ∈ s.bindings := (hx b).status.ready .client (hready .client)
    exact hd.detachCalled hs hc hm hlog rfl rfl
  | @clientDetachReturn t clientPending side hd' pending todo b d log stage hop _ _ hlog =>
    have hm : b ∈ s.bindings := hstaged (t := t) (by rw [hop]; exact if_pos rfl)
    exact hd.detachCalled hs hc hm hlog rfl rfl
  | @finishUnbind t side hd' pending todo b hop | @finishDetach t b hop =>
    have hm : b ∈ s.bindings := hstaged (t := t) (by rw [hop]; exact if_pos rfl)
    exact hd.completed hs hc hm [] rfl (fun _ h => absurd h List.not_mem_nil)
      (fun _ h => absurd h List.not_mem_nil) rfl rfl
  | @unbindPending t side hd' hop =>
    have hh : hd' ∈ s.collection side := howned (t := t) (by rw [hop]; rfl)
    refine hd.note hs rfl ?_ (fun _ hend => absurd hend.2 (by simp)) rfl rfl
    intro x hx'
    exact ⟨side, hx' ▸ hh⟩
  | remove hop _ => exact hd.erase hs (hs.of_remove (Or.inl hop))
  | wake hop _ => exact hd.erase hs (hs.of_remove (Or.inr hop))

/-! ## Runs -/

/-- Everything that holds as long as no completion is early. -/
structure Sound (s : State) : Prop where
  handles : Handles s
  bindings : Bindings s
  exclusive : Exclusive s
  counted : Counted s
  ended : Ended s

theorem sound_init : Sound State.init :=
  ⟨handles_init, bindings_init, exclusive_init, counted_init, ended_init⟩

theorem sound_step (h : Sound s) (hn : NoEarlyCompletion s a) (he : Effect s a s') : Sound s' :=
  ⟨handles_step h.handles he, bindings_step h.bindings he,
    exclusive_step h.exclusive h.bindings hn he,
    counted_step h.counted h.handles h.bindings h.exclusive he,
    ended_step h.ended h.handles h.bindings h.exclusive h.counted he⟩

/-- The thread works for the registration, or on a binding that refers to it. -/
def State.Uses (s : State) (t : Tid) (h : Handle) : Prop :=
  (∃ side l, (s.ops t).owned t = some (side, h, l)) ∨
    ∃ b side, (b ∈ (s.ops t).attachList ∨ (s.ops t).Unbinds b) ∧
      (s.binding b).registration side = h

/-- Nothing refers to the registration any more. -/
structure Released (s : State) (h : Handle) : Prop where
  collection : ∀ side, h ∉ s.collection side
  bindings : ∀ b ∈ s.bindings, ∀ side, (s.binding b).registration side ≠ h
  threads : ∀ t, ¬ s.Uses t h

structure LifetimeSafe (s : State) : Prop where
  count : ∀ side, ∀ h ∈ s.collection side, (s.registration h).bindingCount = s.entries side h
  refs : ∀ b ∈ s.bindings, ∀ side, (s.binding b).registration side ∈ s.collection side
  released : ∀ e ∈ s.log, ∀ h, e.Ends h → Released s h
  silent : ∀ newer older e h, s.log = newer ++ e :: older → e.Ends h → ∀ x ∈ newer, ¬ x.Names h

/-- What is in no collection is not referred to. -/
theorem Sound.released (h : Sound s) {x : Handle} (hout : ∀ side, x ∉ s.collection side) :
    Released s x := by
  refine ⟨hout, ?_, ?_⟩
  · rintro b hm side rfl
    exact hout side (h.counted.refs b hm side)
  · rintro u (⟨side, l, ho⟩ | ⟨b, side, hwork, rfl⟩)
    · exact hout side (h.handles.owned u side x l ho).1
    · have hm : b ∈ s.bindings := by
        rcases hwork with hw | hw
        · exact (h.bindings.attachStart u b hw).1
        · exact h.exclusive.working hw
      exact hout side (h.counted.refs b hm side)

theorem Sound.lifetimeSafe (h : Sound s) : LifetimeSafe s := by
  refine ⟨h.counted.count, h.counted.refs, ?_, ?_⟩
  · intro e he x hend
    exact h.released (h.ended.out e he x hend).2
  · intro newer older e x hlog hend n hn
    have hpair := h.ended.silent
    rw [hlog] at hpair
    exact (List.pairwise_append.mp hpair).2.2 n hn e (List.mem_cons_self ..) x hend

/-- The callers keep their promises, and no detach callback returns `STATUS_PENDING`. -/
def Synchronous (s : State) (a : Action) : Prop :=
  Contract s a ∧
    match a with
    | .clientDetachReturn _ pending | .providerDetachReturn _ pending => pending = false
    | .detachComplete .. => False
    | _ => True

instance (s : State) (a : Action) : Decidable (Synchronous s a) :=
  match a with
  | .clientDetachReturn .. | .providerDetachReturn .. | .detachComplete .. | .register ..
  | .bindScan _ | .attach _ | .clientAttachProvider .. | .providerAttachReturn ..
  | .attachReturn .. | .registerReturn _ | .deregister .. | .unbindScan .. | .beginUnbind _
  | .commit _ | .finish _ | .unbindReturn _ | .remove _ | .wake _ | .wait .. =>
    inferInstanceAs (Decidable (_ ∧ _))

theorem Synchronous.noEarlyCompletion (h : Synchronous s a) : NoEarlyCompletion s a := by
  cases a with
  | detachComplete => exact h.2.elim
  | _ => trivial

/--
With detach callbacks that complete synchronously, in every state that any interleaving reaches:
the counts are the numbers of entries, every entry names registrations that are still there, and
after a deregistration has ended nothing refers to the registration any more.
-/
theorem registration_lifetime (as : List Action) (s : State)
    (hg : Guarded step Synchronous State.init as) (hs : exec step State.init as = some s) :
    LifetimeSafe s := by
  refine Sound.lifetimeSafe (exec_invariant_of_guard ?_ sound_init hg hs)
  intro s a s' h hsync hstep
  exact sound_step h hsync.noEarlyCompletion (step_effect h.handles hsync.1 hstep)

/-- The provider and the client of a binding deregister at the same time; the client finds the
binding on its way out and waits. -/
def bothDeregisterRun : List Action :=
  [.register 0 .provider (some 5) true, .bindScan 0, .registerReturn 0,
   .register 1 .client (some 5) true, .bindScan 1, .attach 1, .clientAttachProvider 1 (some 7),
   .providerAttachReturn 1 (some (some 8)), .attachReturn 1 true, .registerReturn 1,
   .deregister 0 .provider 1, .deregister 1 .client 2, .unbindScan 0 [0], .unbindScan 1 [0],
   .beginUnbind 0, .beginUnbind 1, .unbindReturn 1, .clientDetachReturn 0 false,
   .wait 1 .client 2, .remove 1, .providerDetachReturn 0 false, .commit 0, .finish 0,
   .wake 1, .unbindReturn 0, .remove 0]

theorem bothDeregisterRun_lifetime :
    ∃ s, exec step State.init bothDeregisterRun = some s ∧
      s.log.take 2 = [.deregistered .provider 1 false, .waited .client 2] ∧ LifetimeSafe s := by
  obtain ⟨s, hs, hx⟩ : ∃ s, exec step State.init bothDeregisterRun = some s ∧
      s.log.take 2 = [.deregistered .provider 1 false, .waited .client 2] :=
    exec_of_check (by decide +kernel)
  exact ⟨s, hs, hx, registration_lifetime bothDeregisterRun s
    (guarded_of_check (by decide +kernel)) hs⟩

end Usersim.Nmr
