import Usersim.Fwp.Basic

/-!
# Callbacks and unregistration

A thread that holds a pointer to an entry, or a function pointer it has read from one, is not seen
by `remove_fwps_callout`. As long as no entry is erased while a thread points to it or into it, and
no FwpsCalloutUnregisterById0 returns while a thread is about to call a function of the registration
(`pointersDone`), every pointer leads to an entry of the map.

* `no_callback_after_unregister` — for every interleaving that keeps to this
-/

namespace Usersim.Fwp

open Lib

variable {s s' : State} {t : Tid} {f : Frame} {r : Registration}

/-! ## The condition -/

/-- The callback gets a pointer into the entry. -/
def Callback.pointsTo (r : Registration) : Callback → Bool
  | .notifyDeleteFilter r' _ => r' = r
  | .classify .. | .notifyAddFilter .. | .flowDelete .. => false

/-- The thread holds a pointer to the entry that it has yet to read, or it is in a callback with a
pointer into the entry, or on its way to it. -/
def Frame.pointsTo (r : Registration) : Frame → Bool
  | .found callback r' _ => r' = r || callback.pointsTo r
  | .loaded callback _ _ | .running callback _ _ => callback.pointsTo r
  | .removingFlow .. | .unregistering _ => false

/-- The thread has read the function pointer, and has yet to call it. -/
def Frame.aboutToCall (r : Registration) : Frame → Bool
  | .loaded _ r' _ => r' = r
  | .found .. | .running .. | .removingFlow .. | .unregistering _ => false

/-- An entry is erased when no thread points to it, and the call that erased it returns when no
thread is about to call one of its functions. -/
def pointersDone (s : State) : Action → Bool
  | .calloutUnregister _ calloutId =>
    s.fwpsCallouts.all fun x =>
      x.1 ≠ calloutId || s.frames.all fun y => !y.2.pointsTo x.2.registration
  | .unregisterReturns t =>
    match s.top t with
    | some (.unregistering r) => s.frames.all fun y => !y.2.aboutToCall r
    | _ => true
  | _ => true

/-! ## Maps and frames -/

theorem mem_of_finds {α : Type} [DecidableEq α] {m : List (Id × α)} {p : Id × α → Bool}
    {x : Id × α} (h : finds m p (some x) = true) : x ∈ m := by
  simp only [finds, Bool.and_eq_true, decide_eq_true_eq] at h
  exact h.1

theorem mem_insertNew {κ α : Type} [DecidableEq κ] {m : List (κ × α)} {k : κ} {a : α} {x : κ × α}
    (h : x ∈ insertNew m k a) : x = (k, a) ∨ x ∈ m := by
  unfold insertNew at h
  split at h
  · exact .inr h
  · exact List.mem_cons.mp h

theorem mem_insertNew_of_mem {κ α : Type} [DecidableEq κ] {m : List (κ × α)} {k : κ} {a : α}
    {x : κ × α} (h : x ∈ m) : x ∈ insertNew m k a := by
  unfold insertNew
  split
  · exact h
  · exact List.mem_cons_of_mem _ h

theorem mem_eraseKey {κ α : Type} [DecidableEq κ] {m : List (κ × α)} {k : κ} {x : κ × α} :
    x ∈ eraseKey m k ↔ x ∈ m ∧ x.1 ≠ k := by
  simp [eraseKey]

theorem registered_iff : s.registered r = true ↔ ∃ x ∈ s.fwpsCallouts, x.2.registration = r := by
  simp [State.registered]

theorem registered_of_mem {x : Id × Callout} (h : x ∈ s.fwpsCallouts) :
    s.registered x.2.registration = true :=
  registered_iff.mpr ⟨x, h, rfl⟩

theorem mem_frames_of_top (h : s.top t = some f) : (t, f) ∈ s.frames := by
  obtain ⟨x, hx, rfl⟩ := Option.map_eq_some_iff.mp h
  have ht : x.1 = t := by simpa using List.find?_some hx
  rw [← ht]
  exact List.mem_of_find?_eq_some hx

theorem mem_of_mem_pop {x : Tid × Frame} (h : x ∈ (s.pop t).frames) : x ∈ s.frames :=
  List.mem_of_mem_eraseP h

theorem unlocked_of_lockFree (h : s.lockFree = true) {x : Tid × Frame} (hx : x ∈ s.frames) :
    x.2.locked = false := by
  have hlocked := List.all_eq_true.mp h x hx
  simpa using hlocked

/-! ## The invariant -/

/-- A pointer leads to an entry of the map, and a function pointer to a registration that has not
been unregistered. -/
def FrameOk (s : State) : Frame → Prop
  | .loaded _ r locked => r ∉ s.unregistered ∧ (locked = true → s.registered r = true)
  | .unregistering r => s.registered r = false ∧ r < s.nextRegistration
  | .found .. | .running .. | .removingFlow .. => True

structure Inv (s : State) : Prop where
  unique : ∀ x ∈ s.fwpsCallouts, ∀ y ∈ s.fwpsCallouts,
    x.2.registration = y.2.registration → x = y
  fresh : ∀ x ∈ s.fwpsCallouts, x.2.registration < s.nextRegistration
  unregistered : ∀ r ∈ s.unregistered, s.registered r = false ∧ r < s.nextRegistration
  frames : ∀ x ∈ s.frames, FrameOk s x.2
  pointers : ∀ x ∈ s.frames, ∀ r, x.2.pointsTo r = true → s.registered r = true
  dangling : s.dangling = []
  lateStarts : s.lateStarts = []

theorem inv_init : Inv .init := by
  constructor <;> simp [State.init]

/-- The registrations stay as they are. -/
structure SameCallouts (s s' : State) : Prop where
  fwpsCallouts : s'.fwpsCallouts = s.fwpsCallouts
  nextRegistration : s'.nextRegistration = s.nextRegistration
  unregistered : s'.unregistered = s.unregistered
  dangling : s'.dangling = s.dangling
  lateStarts : s'.lateStarts = s.lateStarts

theorem SameCallouts.registered (h : SameCallouts s s') (r : Registration) :
    s'.registered r = s.registered r := by
  rw [State.registered, State.registered, h.fwpsCallouts]

theorem SameCallouts.frameOk (h : SameCallouts s s') (f : Frame) : FrameOk s' f ↔ FrameOk s f := by
  cases f <;> simp only [FrameOk, h.registered, h.unregistered, h.nextRegistration]

theorem Inv.same (hi : Inv s) (h : SameCallouts s s')
    (hframes : ∀ x ∈ s'.frames, x ∈ s.frames ∨
      FrameOk s x.2 ∧ ∀ r, x.2.pointsTo r = true → s.registered r = true) : Inv s' where
  unique := by
    rw [h.fwpsCallouts]
    exact hi.unique
  fresh := by
    rw [h.fwpsCallouts, h.nextRegistration]
    exact hi.fresh
  unregistered := by
    intro r hr
    rw [h.unregistered] at hr
    rw [h.registered, h.nextRegistration]
    exact hi.unregistered r hr
  frames := by
    intro x hx
    rw [h.frameOk]
    rcases hframes x hx with hold | hok
    · exact hi.frames x hold
    · exact hok.1
  pointers := by
    intro x hx r hr
    rw [h.registered]
    rcases hframes x hx with hold | hok
    · exact hi.pointers x hold r hr
    · exact hok.2 r hr
  dangling := h.dangling.trans hi.dangling
  lateStarts := h.lateStarts.trans hi.lateStarts

/-- A call looks an entry up; if its callback gets a pointer, it is one into this entry. -/
theorem Inv.pushFound (hi : Inv s) (h : SameCallouts s s' ∧ s'.frames = s.frames)
    {c : Id × Callout} (hc : c ∈ s.fwpsCallouts) {callback : Callback} (locked : Bool)
    (hkey : ∀ r, callback.pointsTo r = true → c.2.registration = r) :
    Inv (s'.push t (.found callback c.2.registration locked)) := by
  refine hi.same ⟨h.1.1, h.1.2, h.1.3, h.1.4, h.1.5⟩ ?_
  intro x hx
  rcases List.mem_cons.mp hx with rfl | hx
  · refine .inr ⟨trivial, fun r hr => ?_⟩
    simp only [Frame.pointsTo, Bool.or_eq_true, decide_eq_true_eq] at hr
    have hreg : c.2.registration = r := hr.elim id (hkey r)
    exact hreg ▸ registered_of_mem hc
  · rw [h.2] at hx
    exact .inl hx

/-! ## Registering and unregistering -/

theorem inv_register (hi : Inv s) (calloutKey : Guid) : Inv (registerFwpsCallout s calloutKey) := by
  have hmem : ∀ x ∈ (registerFwpsCallout s calloutKey).fwpsCallouts,
      x.2.registration = s.nextRegistration ∧ x = (s.nextId, ⟨calloutKey, s.nextRegistration⟩) ∨
        x ∈ s.fwpsCallouts := by
    intro x hx
    rcases mem_insertNew hx with rfl | hx
    · exact .inl ⟨rfl, rfl⟩
    · exact .inr hx
  have hreg : ∀ r, s.registered r = true →
      (registerFwpsCallout s calloutKey).registered r = true := by
    intro r hr
    obtain ⟨x, hx, rfl⟩ := registered_iff.mp hr
    exact registered_iff.mpr ⟨x, mem_insertNew_of_mem hx, rfl⟩
  -- the number of the new registration was not given before
  have hgone : ∀ r, s.registered r = false ∧ r < s.nextRegistration →
      (registerFwpsCallout s calloutKey).registered r = false ∧
        r < (registerFwpsCallout s calloutKey).nextRegistration := by
    rintro r ⟨hr, hlt⟩
    refine ⟨?_, Nat.lt_succ_of_lt hlt⟩
    rw [← Bool.not_eq_true, registered_iff]
    rintro ⟨x, hx, rfl⟩
    rcases hmem x hx with ⟨heq, -⟩ | hold
    · exact Nat.ne_of_lt hlt heq
    · rw [registered_of_mem hold] at hr
      cases hr
  constructor
  · intro x hx y hy heq
    rcases hmem x hx with ⟨hx, rfl⟩ | hx
    · rcases hmem y hy with ⟨-, rfl⟩ | hy
      · rfl
      · exact absurd (heq ▸ hx) (Nat.ne_of_lt (hi.fresh y hy))
    · rcases hmem y hy with ⟨hy, rfl⟩ | hy
      · exact absurd (heq.symm ▸ hy) (Nat.ne_of_lt (hi.fresh x hx))
      · exact hi.unique x hx y hy heq
  · intro x hx
    rcases hmem x hx with ⟨hx, -⟩ | hx
    · rw [hx]
      exact Nat.lt_succ_self _
    · exact Nat.lt_succ_of_lt (hi.fresh x hx)
  · exact fun r hr => hgone r (hi.unregistered r hr)
  · intro x hx
    have hok := hi.frames x hx
    revert hok
    cases x.2 with
    | found callback r locked => exact fun hok => hok
    | loaded callback r locked => exact fun hok => ⟨hok.1, fun hl => hreg r (hok.2 hl)⟩
    | running callback r locked => exact fun hok => hok
    | removingFlow flowId layerId calloutId => exact fun hok => hok
    | unregistering r => exact hgone r
  · exact fun x hx r hr => hreg r (hi.pointers x hx r hr)
  · exact hi.dangling
  · exact hi.lateStarts

/-- An entry that nobody points to is erased. -/
theorem inv_unregister (hi : Inv s) {calloutId : Id} {c : Id × Callout} (hfree : s.lockFree = true)
    (hdone : pointersDone s (.calloutUnregister t calloutId) = true)
    (hc : c ∈ s.fwpsCallouts) (hid : c.1 = calloutId) :
    Inv ((removeFwpsCallout s calloutId).push t (.unregistering c.2.registration)) := by
  have hpoints : ∀ x ∈ s.fwpsCallouts, x.1 = calloutId → ∀ y ∈ s.frames,
      y.2.pointsTo x.2.registration = false := by
    intro x hx hxid y hy
    have hx := List.all_eq_true.mp hdone x hx
    rw [Bool.or_eq_true, decide_eq_true_eq] at hx
    have hall := hx.resolve_left (fun hne => hne hxid)
    simpa using List.all_eq_true.mp hall y hy
  have hgone : (removeFwpsCallout s calloutId).registered c.2.registration = false := by
    rw [← Bool.not_eq_true, registered_iff]
    rintro ⟨x, hx, hreg⟩
    obtain ⟨hx, hne⟩ := mem_eraseKey.mp hx
    exact hne (hi.unique x hx c hc hreg ▸ hid)
  have hstill : ∀ r, s.registered r = false →
      (removeFwpsCallout s calloutId).registered r = false := by
    intro r hr
    rw [← Bool.not_eq_true, registered_iff]
    rintro ⟨x, hx, rfl⟩
    rw [registered_of_mem (mem_eraseKey.mp hx).1] at hr
    cases hr
  constructor
  · intro x hx y hy
    exact hi.unique x (mem_eraseKey.mp hx).1 y (mem_eraseKey.mp hy).1
  · exact fun x hx => hi.fresh x (mem_eraseKey.mp hx).1
  · exact fun r hr => ⟨hstill r (hi.unregistered r hr).1, (hi.unregistered r hr).2⟩
  · intro y hy
    rcases List.mem_cons.mp hy with rfl | hy
    · exact ⟨hgone, hi.fresh c hc⟩
    have hok := hi.frames y hy
    have hlocked := unlocked_of_lockFree hfree hy
    revert hok hlocked
    cases y.2 with
    | found callback r locked => exact fun hok _ => hok
    | loaded callback r locked =>
      intro hok hlocked
      refine ⟨hok.1, fun hl => ?_⟩
      rw [Frame.locked] at hlocked
      rw [hlocked] at hl
      cases hl
    | running callback r locked => exact fun hok _ => hok
    | removingFlow flowId layerId calloutId => exact fun hok _ => hok
    | unregistering r => exact fun hok _ => ⟨hstill r hok.1, hok.2⟩
  · intro y hy r hr
    rcases List.mem_cons.mp hy with rfl | hy
    · cases hr
    obtain ⟨x, hx, rfl⟩ := registered_iff.mp (hi.pointers y hy r hr)
    refine registered_iff.mpr ⟨x, mem_eraseKey.mpr ⟨hx, fun hxid => ?_⟩, rfl⟩
    rw [hpoints x hx hxid y hy] at hr
    cases hr
  · exact hi.dangling
  · exact hi.lateStarts

/-- FwpsCalloutUnregisterById0 returns when nobody is about to call the callout. -/
theorem inv_returns (hi : Inv s) (htop : s.top t = some (.unregistering r))
    (hdone : pointersDone s (.unregisterReturns t) = true) :
    Inv { s.pop t with unregistered := r :: s.unregistered } := by
  have hr : s.registered r = false ∧ r < s.nextRegistration :=
    hi.frames _ (mem_frames_of_top htop)
  simp only [pointersDone, htop] at hdone
  constructor
  · exact hi.unique
  · exact hi.fresh
  · intro r' hr'
    rcases List.mem_cons.mp hr' with rfl | hr'
    · exact hr
    · exact hi.unregistered r' hr'
  · intro y hy
    have hy := mem_of_mem_pop hy
    have hok := hi.frames y hy
    have hnot : y.2.aboutToCall r = false := by
      simpa using List.all_eq_true.mp hdone y hy
    revert hok hnot
    cases y.2 with
    | found callback r' locked => exact fun hok _ => hok
    | loaded callback r' locked =>
      intro hok hnot
      refine ⟨?_, hok.2⟩
      rw [List.mem_cons, not_or]
      exact ⟨by simpa [Frame.aboutToCall] using hnot, hok.1⟩
    | running callback r' locked => exact fun hok _ => hok
    | removingFlow flowId layerId calloutId => exact fun hok _ => hok
    | unregistering r' => exact fun hok _ => hok
  · exact fun y hy => hi.pointers y (mem_of_mem_pop hy)
  · exact hi.dangling
  · exact hi.lateStarts

/-! ## Calling a callout -/

theorem inv_load (hi : Inv s) {callback : Callback} {locked : Bool}
    (htop : s.top t = some (.found callback r locked)) :
    Inv { (s.pop t).push t (.loaded callback r locked) with
      dangling := if s.registered r then s.dangling else r :: s.dangling } := by
  have hpoints := hi.pointers _ (mem_frames_of_top htop)
  have hr : s.registered r = true := hpoints r (by simp [Frame.pointsTo])
  have hnot : r ∉ s.unregistered := by
    intro hmem
    rw [(hi.unregistered r hmem).1] at hr
    cases hr
  rw [if_pos hr]
  refine hi.same ⟨rfl, rfl, rfl, rfl, rfl⟩ ?_
  intro x hx
  rcases List.mem_cons.mp hx with rfl | hx
  · refine .inr ⟨⟨hnot, fun _ => hr⟩, fun k hk => hpoints k ?_⟩
    simp only [Frame.pointsTo, Bool.or_eq_true]
    exact .inr hk
  · exact .inl (mem_of_mem_pop hx)

theorem inv_start (hi : Inv s) {callback : Callback} {locked : Bool}
    (htop : s.top t = some (.loaded callback r locked)) :
    Inv { (s.pop t).push t (.running callback r locked) with
      lateStarts := if r ∈ s.unregistered then r :: s.lateStarts else s.lateStarts } := by
  have hok : r ∉ s.unregistered ∧ _ := hi.frames _ (mem_frames_of_top htop)
  rw [if_neg hok.1]
  refine hi.same ⟨rfl, rfl, rfl, rfl, rfl⟩ ?_
  intro x hx
  rcases List.mem_cons.mp hx with rfl | hx
  · refine .inr ⟨trivial, fun k hk => ?_⟩
    exact hi.pointers _ (mem_frames_of_top htop) k hk
  · exact .inl (mem_of_mem_pop hx)

/-- The callback of a filter's deletion reads its key from an entry of the map. -/
theorem inv_readKey (hi : Inv s) {key : Registration} {context : BitVec 64} {locked : Bool}
    (htop : s.top t = some (.running (.notifyDeleteFilter key context) r locked)) :
    Inv { s with dangling := if s.registered key then s.dangling else key :: s.dangling } := by
  have hpoints := hi.pointers _ (mem_frames_of_top htop)
  rw [if_pos (hpoints key (by simp [Frame.pointsTo, Callback.pointsTo]))]
  exact hi

theorem inv_pop (hi : Inv s) (t : Tid) : Inv (s.pop t) :=
  hi.same ⟨rfl, rfl, rfl, rfl, rfl⟩ fun _ hx => .inl (mem_of_mem_pop hx)

theorem inv_deleteFlowContext (hi : Inv s) {flowId : BitVec 64} {layerId : BitVec 16}
    {calloutId : Id} {callout : Option (Id × Callout)}
    (h : deleteFlowContext s t flowId layerId calloutId callout = some s') : Inv s' := by
  simp only [deleteFlowContext] at h
  split at h
  · cases h
  · split at h
    · rename_i hfinds
      obtain ⟨c, rfl, rfl⟩ := Option.map_eq_some_iff.mp h
      refine hi.pushFound ?_ (mem_of_finds hfinds) _ ?_
      · exact ⟨⟨rfl, rfl, rfl, rfl, rfl⟩, rfl⟩
      · simp [Callback.pointsTo]
    · cases h

theorem inv_addFwpmFilter (hi : Inv s) {filter : Filter} {callout : Option (Id × Callout)}
    (h : addFwpmFilter s t filter callout = some s') : Inv s' := by
  simp only [addFwpmFilter] at h
  split at h
  · rename_i hfinds
    obtain ⟨c, rfl, rfl⟩ := Option.map_eq_some_iff.mp h
    refine hi.pushFound ?_ (mem_of_finds hfinds) _ ?_
    · exact ⟨⟨rfl, rfl, rfl, rfl, rfl⟩, rfl⟩
    · simp [Callback.pointsTo]
  · cases h

theorem inv_removeFwpmFilter (hi : Inv s) {id : Id} {filter : Option (Id × Filter)}
    {callout : Option (Id × Callout)} (h : removeFwpmFilter s t id filter callout = some s') :
    Inv s' := by
  simp only [removeFwpmFilter] at h
  split at h
  · cases h
  · split at h
    · rename_i hfinds
      obtain ⟨c, rfl, rfl⟩ := Option.map_eq_some_iff.mp h
      rw [Bool.and_eq_true] at hfinds
      refine hi.pushFound ?_ (mem_of_finds hfinds.2) _ ?_
      · exact ⟨⟨rfl, rfl, rfl, rfl, rfl⟩, rfl⟩
      · simp [Callback.pointsTo]
    · cases h

theorem inv_testRemoveFlowContext (hi : Inv s) {flowId : BitVec 64} {layerId : BitVec 16}
    {layer : Guid} {managementCallout : Option (Id × ManagementCallout)}
    {callout : Option (Id × Callout)}
    (h : testRemoveFlowContext s t flowId layerId layer managementCallout callout = some s') :
    Inv s' := by
  simp only [testRemoveFlowContext, Option.ite_none_right_eq_some, Option.some.injEq] at h
  obtain ⟨-, -, rfl⟩ := h
  refine hi.same ⟨rfl, rfl, rfl, rfl, rfl⟩ ?_
  intro x hx
  rcases List.mem_cons.mp hx with rfl | hx
  · exact .inr ⟨trivial, fun _ hr => by cases hr⟩
  · exact .inl hx

theorem inv_testCallout (hi : Inv s) {layer subLayer : Guid} {filter : Option (Id × Filter)}
    {callout : Option (Id × Callout)}
    (h : testCallout s t layer subLayer filter callout = some s') : Inv s' := by
  simp only [testCallout] at h
  split at h
  · split at h
    · rename_i hfinds
      cases h
      rw [Bool.and_eq_true] at hfinds
      refine hi.pushFound ?_ (mem_of_finds hfinds.2) _ ?_
      · exact ⟨⟨rfl, rfl, rfl, rfl, rfl⟩, rfl⟩
      · simp [Callback.pointsTo]
    · cases h
  · cases h

theorem inv_classifyTestPacket (hi : Inv s) {layer : Guid}
    {managementCallout : Option (Id × ManagementCallout)} {callout : Option (Id × Callout)}
    {filter : Option (Id × Filter)}
    (h : classifyTestPacket s t layer managementCallout callout filter = some s') : Inv s' := by
  simp only [classifyTestPacket] at h
  split at h
  · split at h
    · rename_i hfinds
      cases h
      rw [Bool.and_eq_true, Bool.and_eq_true] at hfinds
      refine hi.pushFound ?_ (mem_of_finds hfinds.1.2) _ ?_
      · exact ⟨⟨rfl, rfl, rfl, rfl, rfl⟩, rfl⟩
      · simp [Callback.pointsTo]
    · cases h
  · cases h

/-! ## Every run -/

theorem inv_frameStep {a : Action} (hi : Inv s) (ht : a.thread = t) (htop : s.top t = some f)
    (hdone : pointersDone s a = true) (h : frameStep s t f a = some s') : Inv s' := by
  subst ht
  cases a with
  | unregisterReturns t =>
    simp only [frameStep] at h
    split at h
    · cases h
      exact inv_returns hi htop hdone
    · cases h
  | removeFlow t callout =>
    simp only [frameStep] at h
    split at h
    · split at h
      · exact inv_deleteFlowContext (inv_pop hi _) h
      · cases h
    · cases h
  | abandon t =>
    simp only [frameStep] at h
    split at h
    · cases h
      exact inv_pop hi _
    · cases h
  | load t =>
    simp only [frameStep] at h
    split at h
    · cases h
      exact inv_load hi htop
    · cases h
  | start t =>
    simp only [frameStep] at h
    split at h
    · cases h
      exact inv_start hi htop
    · cases h
  | readKey t =>
    simp only [frameStep] at h
    split at h
    · cases h
      exact inv_readKey hi htop
    · cases h
  | finish t =>
    simp only [frameStep] at h
    split at h
    · cases h
      exact inv_pop hi _
    · cases h
  | _ => cases h

theorem inv_callStep {a : Action} (hi : Inv s) (hdone : pointersDone s a = true)
    (h : callStep s a = some s') : Inv s' := by
  cases a with
  | calloutRegister t calloutKey =>
    simp only [callStep, Option.ite_none_right_eq_some, Option.some.injEq] at h
    obtain ⟨-, rfl⟩ := h
    exact inv_register hi calloutKey
  | calloutUnregister t calloutId =>
    simp only [callStep, Option.ite_none_right_eq_some] at h
    obtain ⟨hfree, h⟩ := h
    split at h
    · rename_i c hfind
      cases h
      refine inv_unregister hi hfree hdone (List.mem_of_find?_eq_some hfind) ?_
      simpa using List.find?_some hfind
    · cases h
      exact hi
  | calloutAdd t callout =>
    simp only [callStep, Option.ite_none_right_eq_some, Option.some.injEq] at h
    obtain ⟨-, rfl⟩ := h
    exact hi.same ⟨rfl, rfl, rfl, rfl, rfl⟩ fun _ hx => .inl hx
  | calloutDelete t calloutKey callout =>
    simp only [callStep, Option.ite_none_right_eq_some] at h
    obtain ⟨-, h⟩ := h
    split at h
    · cases h
      exact hi.same ⟨rfl, rfl, rfl, rfl, rfl⟩ fun _ hx => .inl hx
    · cases h
      exact hi
  | subLayerAdd t =>
    simp only [callStep, Option.ite_none_right_eq_some, Option.some.injEq] at h
    obtain ⟨-, rfl⟩ := h
    exact hi.same ⟨rfl, rfl, rfl, rfl, rfl⟩ fun _ hx => .inl hx
  | filterAdd t filter callout =>
    simp only [callStep, Option.ite_none_right_eq_some] at h
    exact inv_addFwpmFilter hi h.2
  | filterDelete t id filter callout =>
    simp only [callStep, Option.ite_none_right_eq_some] at h
    exact inv_removeFwpmFilter hi h.2
  | flowAssociate t flowId flowContext =>
    simp only [callStep, Option.ite_none_right_eq_some, Option.some.injEq] at h
    obtain ⟨-, rfl⟩ := h
    exact hi.same ⟨rfl, rfl, rfl, rfl, rfl⟩ fun _ hx => .inl hx
  | flowRemove t flowId layerId calloutId callout =>
    simp only [callStep, Option.ite_none_right_eq_some] at h
    exact inv_deleteFlowContext hi h.2
  | testRemoveFlow t flowId layerId layer managementCallout callout =>
    exact inv_testRemoveFlowContext hi h
  | testCallout t layer subLayer filter callout => exact inv_testCallout hi h
  | classifyTestPacket t layer managementCallout callout filter =>
    exact inv_classifyTestPacket hi h
  | _ => cases h

theorem inv_step {a : Action} (hi : Inv s) (hdone : pointersDone s a = true)
    (h : step s a = some s') : Inv s' := by
  unfold step at h
  split at h
  case h_8 =>
    split at h
    · exact inv_callStep hi hdone h
    · cases h
  all_goals
    split at h
    · rename_i f htop
      refine inv_frameStep hi ?_ htop hdone h
      rfl
    · cases h

/-- While no entry is erased under a pointer and no unregistration returns before a call, no
callback is started after its registration was unregistered, and no erased entry is read. -/
theorem no_callback_after_unregister (run : List Action) (s : State)
    (hg : Guarded step (fun s a => pointersDone s a = true) .init run)
    (h : exec step .init run = some s) : s.lateStarts = [] ∧ s.dangling = [] := by
  have hi : Inv s := exec_invariant_of_guard (fun _ _ _ hi hg hs => inv_step hi hg hs) inv_init hg h
  exact ⟨hi.lateStarts, hi.dangling⟩

/-- A filter with a callout; the callout gets the id 1 and the filter the id 2. -/
def exampleFilter : Filter where
  layerKey := 1
  subLayerKey := 2
  calloutKey := 7
  rawContext := 5

def exampleCallout : Option (Id × Callout) := some (1, ⟨7, 0⟩)

/-- Thread 0 registers the callout and adds the filter. -/
def setUpRun : List Action :=
  [.calloutRegister 0 7, .filterAdd 0 exampleFilter exampleCallout, .load 0, .start 0, .finish 0]

/-- Thread 1 is inside classifyFn while the filter is deleted and the callout is unregistered. -/
def unregisterWhileRunning : List Action :=
  setUpRun ++ [.testCallout 1 1 2 (some (2, exampleFilter)) exampleCallout, .load 1, .start 1,
    .filterDelete 0 2 (some (2, exampleFilter)) exampleCallout, .load 0, .start 0, .readKey 0,
    .finish 0, .calloutUnregister 0 1, .unregisterReturns 0, .finish 1]

theorem no_callback_after_unregister_whileRunning :
    ∃ s, exec step .init unregisterWhileRunning = some s ∧ s.unregistered = [0] ∧
      s.lateStarts = [] ∧ s.dangling = [] := by
  obtain ⟨s, hs, hx⟩ : ∃ s, exec step .init unregisterWhileRunning = some s ∧
      s.unregistered = [0] := exec_of_check (by decide +kernel)
  exact ⟨s, hs, hx,
    no_callback_after_unregister _ s (guarded_of_check (by decide +kernel)) hs⟩

/-- Thread 1 has looked the callout up in `test_callout` and dropped the lock; the callout is then
unregistered. -/
def unregisterWhileFound : List Action :=
  setUpRun ++ [.testCallout 1 1 2 (some (2, exampleFilter)) exampleCallout,
    .calloutUnregister 0 1, .unregisterReturns 0, .load 1, .start 1]

/-- Thread 1 is inside the notifyFn of the filter's deletion when the callout is unregistered. -/
def unregisterWhileNotified : List Action :=
  setUpRun ++ [.filterDelete 1 2 (some (2, exampleFilter)) exampleCallout, .load 1, .start 1,
    .calloutUnregister 0 1, .unregisterReturns 0, .readKey 1]

theorem found_callout_called_late :
    (exec step .init unregisterWhileFound).map (fun s => (s.dangling, s.lateStarts)) =
      some ([0], [0]) ∧
    (exec step .init unregisterWhileNotified).map (fun s => (s.dangling, s.lateStarts)) =
      some ([0], []) := by
  constructor <;> decide +kernel

end Usersim.Fwp
