import Usersim.Timer.Basic

/-!
# What the timer calls return (`ke.cpp`)

A timer is armed until it is cancelled or, if it was set for once, has expired. The code
does not keep that: a set takes a thread pool timer for an armed one, a cancel takes
`signaled` for one that is not.

* `inv_step` — a timer has a thread pool timer if and only if it was set and not cancelled since
* `results_iff` — which runs get the right answers
-/

namespace Usersim.Timer

open Lib

def Arming.armed (a : Arming) : Bool := !a.cancelled && !(a.oneShot && a.expired)

/-- What the calls should return. -/
def Right (s : State) : Action → Prop
  | .keSetTimer t dueTime dpc created =>
    (keSetTimer s t dueTime dpc created).map Prod.snd = some (s.latest t).armed
  | .keSetTimerEx t dueTime period dpc created =>
    (keSetTimerEx s t dueTime period dpc created).map Prod.snd = some (s.latest t).armed
  | .keSetCoalescableTimer t dueTime period tolerableDelay dpc created =>
    (keSetCoalescableTimer s t dueTime period tolerableDelay dpc created).map Prod.snd =
      some (s.latest t).armed
  | .keCancelTimer t => (keCancelTimer s t).map Prod.snd = some (s.latest t).armed
  | .keReadStateTimer t =>
    keReadStateTimer (s.timers t) = some ((s.latest t).expired && !(s.latest t).cancelled)
  | .elapse _ | .callback .. => True

instance (s : State) (a : Action) : Decidable (Right s a) :=
  match a with
  | .keSetTimer .. | .keSetTimerEx .. | .keSetCoalescableTimer .. | .keCancelTimer _
  | .keReadStateTimer _ => inferInstanceAs (Decidable (_ = _))
  | .elapse _ | .callback .. => isTrue trivial

/-- A one-shot timer that has expired is not set before it is cancelled. -/
def Arming.SetOk (a : Arming) : Prop :=
  a.cancelled = true ∨ ¬ (a.oneShot = true ∧ a.expired = true)

/-- A periodic timer that has expired is not cancelled, and no late callback counts for one of the
setting in force. -/
def Arming.CancelOk (a : Arming) : Prop :=
  a.cancelled = true ∨ a.oneShot = true ∧ a.expired = true ∨ a.expired = false ∧ a.late = false

def Arming.ReadOk (a : Arming) : Prop := a.cancelled = true ∨ a.expired = true ∨ a.late = false

/-- When the thread pool timer and `signaled` tell whether the timer is armed. -/
def Told (s : State) : Action → Prop
  | .keSetTimer t .. | .keSetTimerEx t .. | .keSetCoalescableTimer t .. => (s.latest t).SetOk
  | .keCancelTimer t => (s.latest t).CancelOk
  | .keReadStateTimer t => (s.latest t).ReadOk
  | .elapse _ | .callback .. => True

instance (s : State) (a : Action) : Decidable (Told s a) :=
  match a with
  | .keSetTimer .. | .keSetTimerEx .. | .keSetCoalescableTimer .. | .keCancelTimer _
  | .keReadStateTimer _ => inferInstanceAs (Decidable (_ ∨ _))
  | .elapse _ | .callback .. => isTrue trivial

/-! ## The invariant -/

/-- A timer and the thread pool timer it has. -/
structure Live (s : State) (t : TimerId) (tp : Handle) : Prop where
  handle : (s.timers t).threadpoolTimer = some tp
  listed : tp ∈ s.threadpoolTimers
  context : ∃ o, s.os tp = some o ∧ o.context = t

structure Inv (s : State) : Prop where
  type : ∀ t, (s.timers t).objectType = .timer
  stopped : ∀ t, (s.latest t).cancelled = true →
    (s.timers t).threadpoolTimer = none ∧ (s.timers t).signaled = false
  running : ∀ t, (s.latest t).cancelled = false → (∃ tp, Live s t tp) ∧
    (s.timers t).signaled = ((s.latest t).expired || (s.latest t).late)
  owned : ∀ tp o, s.os tp = some o → (s.timers o.context).threadpoolTimer = some tp

variable {s s' : State} {t : TimerId} {tp : Handle}

theorem inv_init : Inv State.init := ⟨fun _ => rfl, fun _ _ => ⟨rfl, rfl⟩, nofun, nofun⟩

/-- A timer is cancelled, or live. -/
theorem Inv.cases (h : Inv s) (t : TimerId) :
    (s.latest t).cancelled = true ∧ (s.timers t).threadpoolTimer = none ∧
        (s.timers t).signaled = false ∨
      (s.latest t).cancelled = false ∧ (∃ tp, Live s t tp) ∧
        (s.timers t).signaled = ((s.latest t).expired || (s.latest t).late) := by
  cases hc : (s.latest t).cancelled with
  | true => exact .inl ⟨rfl, h.stopped t hc⟩
  | false => exact .inr ⟨rfl, h.running t hc⟩

theorem Inv.live (h : Inv s) (hhandle : (s.timers t).threadpoolTimer = some tp) : Live s t tp := by
  rcases h.cases t with ⟨-, hnone, -⟩ | ⟨-, ⟨tp', hlive⟩, -⟩
  · rw [hnone] at hhandle
    cases hhandle
  · obtain rfl : tp' = tp := Option.some.inj (hlive.handle.symm.trans hhandle)
    exact hlive

/-- No two timers have the same one. -/
theorem Live.unique {t' : TimerId} (h : Live s t tp) (h' : Live s t' tp) : t = t' := by
  obtain ⟨o, ho, rfl⟩ := h.context
  obtain ⟨o', ho', rfl⟩ := h'.context
  rw [Option.some.inj (ho.symm.trans ho')]

/-- A step that changes one timer and leaves the other ones alone. -/
theorem Inv.update (h : Inv s) {k : KTimer} {a : Arming}
    (htimers : s'.timers = Function.update s.timers t k)
    (hlatest : s'.latest = Function.update s.latest t a) (htype : k.objectType = .timer)
    (hlive : ∀ t' tp, t' ≠ t → Live s t' tp →
      tp ∈ s'.threadpoolTimers ∧ ∃ o, s'.os tp = some o ∧ o.context = t')
    (hstopped : a.cancelled = true → k.threadpoolTimer = none ∧ k.signaled = false)
    (hrunning : a.cancelled = false →
      (∃ tp, k.threadpoolTimer = some tp ∧ tp ∈ s'.threadpoolTimers ∧
        ∃ o, s'.os tp = some o ∧ o.context = t) ∧ k.signaled = (a.expired || a.late))
    (howned : ∀ tp o, s'.os tp = some o → o.context = t ∧ k.threadpoolTimer = some tp ∨
      o.context ≠ t ∧ (s.timers o.context).threadpoolTimer = some tp) : Inv s' := by
  have hself : s'.timers t = k ∧ s'.latest t = a := by
    rw [htimers, hlatest, Function.update_self, Function.update_self]
    exact ⟨rfl, rfl⟩
  have hother : ∀ t', t' ≠ t → s'.timers t' = s.timers t' ∧ s'.latest t' = s.latest t' := by
    intro t' ht
    rw [htimers, hlatest, Function.update_of_ne ht, Function.update_of_ne ht]
    exact ⟨rfl, rfl⟩
  refine ⟨fun t' => ?_, fun t' => ?_, fun t' => ?_, fun tp o ho => ?_⟩
  · by_cases ht : t' = t
    · rw [ht, hself.1]
      exact htype
    · rw [(hother t' ht).1]
      exact h.type t'
  · by_cases ht : t' = t
    · rw [ht, hself.1, hself.2]
      exact hstopped
    · rw [(hother t' ht).1, (hother t' ht).2]
      exact h.stopped t'
  · by_cases ht : t' = t
    · rw [ht, hself.1, hself.2]
      intro hc
      obtain ⟨⟨tp, hhandle, hlisted, hcontext⟩, hsignaled⟩ := hrunning hc
      exact ⟨⟨tp, hself.1 ▸ hhandle, hlisted, hcontext⟩, hsignaled⟩
    · rw [(hother t' ht).1, (hother t' ht).2]
      intro hc
      obtain ⟨⟨tp, hl⟩, hsignaled⟩ := h.running t' hc
      obtain ⟨hlisted, hcontext⟩ := hlive t' tp ht hl
      exact ⟨⟨tp, (hother t' ht).1 ▸ hl.handle, hlisted, hcontext⟩, hsignaled⟩
  · rcases howned tp o ho with ⟨heq, hhandle⟩ | ⟨hne, hhandle⟩
    · rw [heq, hself.1]
      exact hhandle
    · rw [(hother _ hne).1]
      exact hhandle

/-- A thread pool timer that changes but is neither closed nor given away. -/
theorem Inv.os_update (h : Inv s) {o o' : TpTimer} (ho : s.os tp = some o)
    (hcontext : o'.context = o.context) :
    (∀ t' tp', Live s t' tp' → ∃ o₁, Function.update s.os tp (some o') tp' = some o₁ ∧
        o₁.context = t') ∧
      ∀ tp' o₁, Function.update s.os tp (some o') tp' = some o₁ →
        (s.timers o₁.context).threadpoolTimer = some tp' := by
  refine ⟨fun t' tp' hl => ?_, fun tp' o₁ ho₁ => ?_⟩
  · obtain ⟨o₁, ho₁, hc⟩ := hl.context
    by_cases htp : tp' = tp
    · subst htp
      obtain rfl : o = o₁ := Option.some.inj (ho.symm.trans ho₁)
      exact ⟨o', Function.update_self .., hcontext.trans hc⟩
    · exact ⟨o₁, by rw [Function.update_of_ne htp, ho₁], hc⟩
  · by_cases htp : tp' = tp
    · subst htp
      rw [Function.update_self] at ho₁
      cases ho₁
      rw [hcontext]
      exact h.owned tp' o ho
    · rw [Function.update_of_ne htp] at ho₁
      exact h.owned tp' o₁ ho₁

theorem start_os_self {dueTime : BitVec 64} {period tolerableDelay : BitVec 32} {dpc : Option Dpc}
    {o : TpTimer} (ho : s.os tp = some o) :
    (s.start t tp dueTime period tolerableDelay dpc).os tp =
      some (setThreadpoolTimer o (some dueTime) period tolerableDelay) := by
  simp [State.start, ho]

theorem start_os_of_ne {dueTime : BitVec 64} {period tolerableDelay : BitVec 32} {dpc : Option Dpc}
    (s : State) {tp' : Handle} (h : tp' ≠ tp) :
    (s.start t tp dueTime period tolerableDelay dpc).os tp' = s.os tp' :=
  Function.update_of_ne h ..

/-- A timer is set; `s₁` is the state with its thread pool timer. -/
theorem inv_start {s₁ : State} {dueTime : BitVec 64} {period tolerableDelay : BitVec 32}
    {dpc : Option Dpc} {o : TpTimer} (h : Inv s) (htimers : s₁.timers = s.timers)
    (hlatest : s₁.latest = s.latest) (hlisted : tp ∈ s₁.threadpoolTimers)
    (hos : s₁.os tp = some o) (hcontext : o.context = t)
    (hothers : ∀ t' tp', t' ≠ t → Live s t' tp' → tp' ≠ tp ∧ tp' ∈ s₁.threadpoolTimers ∧
      s₁.os tp' = s.os tp')
    (howned : ∀ tp' o', tp' ≠ tp → s₁.os tp' = some o' →
      o'.context ≠ t ∧ (s.timers o'.context).threadpoolTimer = some tp') :
    Inv (s₁.start t tp dueTime period tolerableDelay dpc) := by
  refine h.update (t := t)
    (k := { s.timers t with threadpoolTimer := some tp, signaled := false, dpc := dpc })
    (a := { oneShot := period = 0, cancelled := false, expired := false, late := false })
    (by rw [State.start, htimers]) (by rw [State.start, hlatest]) (h.type t)
    (fun t' tp' ht hl => ?_) nofun (fun _ => ⟨⟨tp, rfl, hlisted, ?_⟩, rfl⟩) fun tp' o' ho' => ?_
  · obtain ⟨htp, hlisted', hos'⟩ := hothers t' tp' ht hl
    obtain ⟨o', ho', hcontext'⟩ := hl.context
    exact ⟨hlisted', o', by rw [start_os_of_ne _ htp, hos', ho'], hcontext'⟩
  · exact ⟨_, start_os_self hos, hcontext⟩
  · by_cases htp : tp' = tp
    · subst htp
      rw [start_os_self hos] at ho'
      cases ho'
      exact .inl ⟨hcontext, rfl⟩
    · rw [start_os_of_ne _ htp] at ho'
      exact .inr (howned tp' o' htp ho')

theorem keSetCoalescableTimer_spec (period tolerableDelay : BitVec 32) {dueTime : BitVec 64}
    {dpc : Option Dpc} {created : Option Handle} (h : Inv s)
    (ha : SetAdmissible s t dueTime dpc created) :
    ∃ r, keSetCoalescableTimer s t dueTime period tolerableDelay dpc created = some r ∧
      r.2 = !(s.latest t).cancelled ∧ Inv r.1 := by
  obtain ⟨hdpc, hdue, hcreated⟩ := ha
  rw [keSetCoalescableTimer, if_pos ⟨hdpc, h.type t, hdue⟩]
  rcases h.cases t with ⟨hc, hnone, -⟩ | ⟨hc, ⟨tp, hlive⟩, -⟩
  · obtain ⟨tp, rfl, hfresh⟩ := hcreated hnone
    rw [hnone]
    have hlisted : tp ∈ s.threadpoolTimers ++ [tp] := by simp
    refine ⟨_, rfl, by rw [hc]; rfl, inv_start h rfl rfl hlisted (Function.update_self ..) rfl
      (fun t' tp' ht hl => ?_) fun tp' o' htp ho' => ?_⟩
    · have htp : tp' ≠ tp := by
        rintro rfl
        obtain ⟨o, ho, -⟩ := hl.context
        rw [hfresh] at ho
        cases ho
      exact ⟨htp, List.mem_append_left _ hl.listed, Function.update_of_ne htp ..⟩
    · have ho' : s.os tp' = some o' := by
        rw [← ho']
        exact (Function.update_of_ne htp ..).symm
      have hhandle := h.owned tp' o' ho'
      refine ⟨fun heq => ?_, hhandle⟩
      rw [heq, hnone] at hhandle
      cases hhandle
  · rw [hlive.handle]
    obtain ⟨o, ho, hcontext⟩ := hlive.context
    refine ⟨_, rfl, by rw [hc]; rfl, inv_start h rfl rfl hlive.listed ho hcontext
      (fun t' tp' ht hl => ⟨?_, hl.listed, rfl⟩) fun tp' o' htp ho' => ⟨?_, h.owned tp' o' ho'⟩⟩
    · rintro rfl
      exact ht (hl.unique hlive)
    · rintro rfl
      have hhandle := h.owned tp' o' ho'
      rw [hlive.handle] at hhandle
      exact htp (Option.some.inj hhandle).symm

theorem keCancelTimer_spec (h : Inv s) (t : TimerId) :
    ∃ r, keCancelTimer s t = some r ∧
      r.2 = (!(s.latest t).cancelled && !((s.latest t).expired || (s.latest t).late)) ∧
      Inv r.1 := by
  rw [keCancelTimer, if_pos (h.type t)]
  rcases h.cases t with ⟨hc, hnone, -⟩ | ⟨hc, ⟨tp, hlive⟩, hsignaled⟩
  · rw [hnone]
    exact ⟨_, rfl, by rw [hc]; rfl, h⟩
  · rw [hlive.handle]
    simp only [if_pos hlive.listed]
    refine ⟨_, rfl, by rw [hc, hsignaled]; rfl, h.update (t := t) rfl rfl (h.type t)
      (fun t' tp' ht hl => ?_) (fun _ => ⟨rfl, rfl⟩) nofun fun tp' o' ho' => ?_⟩
    · have htp : tp' ≠ tp := by
        rintro rfl
        exact ht (hl.unique hlive)
      obtain ⟨o, ho, hcontext⟩ := hl.context
      exact ⟨(List.mem_erase_of_ne htp).mpr hl.listed, o, (Function.update_of_ne htp ..).trans ho,
        hcontext⟩
    · by_cases htp : tp' = tp
      · subst htp
        simp at ho'
      · have ho' : s.os tp' = some o' := by
          rw [← ho']
          exact (Function.update_of_ne htp ..).symm
        have hhandle := h.owned tp' o' ho'
        have hne : o'.context ≠ t := by
          intro heq
          rw [heq, hlive.handle] at hhandle
          exact htp (Option.some.inj hhandle).symm
        exact .inr ⟨hne, hhandle⟩

theorem keReadStateTimer_spec (h : Inv s) (t : TimerId) :
    keReadStateTimer (s.timers t) =
      some (!(s.latest t).cancelled && ((s.latest t).expired || (s.latest t).late)) := by
  rw [keReadStateTimer, if_pos (h.type t)]
  rcases h.cases t with ⟨hc, -, hsignaled⟩ | ⟨hc, -, hsignaled⟩
  · rw [hc, hsignaled]
    rfl
  · rw [hc, hsignaled]
    rfl

theorem inv_elapse (h : Inv s) (hs : step s (.elapse tp) = some s') : Inv s' := by
  obtain ⟨o, ho, hs⟩ := Option.bind_eq_some_iff.mp hs
  split at hs
  · cases hs
    obtain ⟨hlive, howned⟩ := h.os_update ho (show o.elapse.context = o.context from rfl)
    refine ⟨h.type, h.stopped, fun t hc => ?_, howned⟩
    obtain ⟨⟨tp', hl⟩, hsignaled⟩ := h.running t hc
    exact ⟨⟨tp', hl.handle, hl.listed, hlive t tp' hl⟩, hsignaled⟩
  · cases hs

/-- After a callback the timer is signaled, whichever setting it was of. -/
theorem ran_expired_or_late (a : Arming) (inForce : Bool) :
    ((a.ran inForce).expired || (a.ran inForce).late) = true := by
  cases inForce <;> simp [Arming.ran]

theorem ran_cancelled (a : Arming) (inForce : Bool) : (a.ran inForce).cancelled = a.cancelled := by
  cases inForce <;> rfl

theorem inv_callback {place : Nat} (h : Inv s) (hs : step s (.callback tp place) = some s') :
    Inv s' := by
  obtain ⟨o, ho, hs⟩ := Option.bind_eq_some_iff.mp hs
  obtain ⟨setting, -, hs⟩ := Option.bind_eq_some_iff.mp hs
  obtain ⟨r, hr, rfl⟩ := Option.map_eq_some_iff.mp hs
  rw [usersimTimerCallback, if_pos (h.type _)] at hr
  cases hr
  have hhandle := h.owned tp o ho
  have hl := h.live hhandle
  obtain ⟨hlive, howned⟩ :=
    h.os_update ho (show { o with queued := o.queued.eraseIdx place }.context = o.context from rfl)
  rcases h.cases o.context with ⟨-, hnone, -⟩ | ⟨hc, -, -⟩
  · rw [hnone] at hhandle
    cases hhandle
  · refine h.update (t := o.context) rfl rfl (h.type _)
      (fun t' tp' _ hl' => ⟨hl'.listed, hlive t' tp' hl'⟩) (fun hc' => ?_)
      (fun _ => ⟨⟨tp, hhandle, hl.listed, hlive o.context tp hl⟩, (ran_expired_or_late ..).symm⟩)
      fun tp' o' ho' => ?_
    · rw [ran_cancelled, hc] at hc'
      cases hc'
    · have hhandle' := howned tp' o' ho'
      by_cases heq : o'.context = o.context
      · exact .inl ⟨heq, heq ▸ hhandle'⟩
      · exact .inr ⟨heq, hhandle'⟩

theorem inv_step {a : Action} (h : Inv s) (ha : Admissible s a) (hs : step s a = some s') :
    Inv s' := by
  cases a with
  | keSetTimer t dueTime dpc created =>
    obtain ⟨r, hr, rfl⟩ := Option.map_eq_some_iff.mp hs
    obtain ⟨r', hr', -, hinv⟩ := keSetCoalescableTimer_spec 0 0 h ha
    rw [keSetTimer, hr'] at hr
    cases hr
    exact hinv
  | keSetTimerEx t dueTime period dpc created =>
    obtain ⟨r, hr, rfl⟩ := Option.map_eq_some_iff.mp hs
    obtain ⟨r', hr', -, hinv⟩ :=
      keSetCoalescableTimer_spec period 0 h ha
    rw [keSetTimerEx, hr'] at hr
    cases hr
    exact hinv
  | keSetCoalescableTimer t dueTime period tolerableDelay dpc created =>
    obtain ⟨r, hr, rfl⟩ := Option.map_eq_some_iff.mp hs
    obtain ⟨r', hr', -, hinv⟩ :=
      keSetCoalescableTimer_spec period tolerableDelay h ha
    rw [hr'] at hr
    cases hr
    exact hinv
  | keCancelTimer t =>
    obtain ⟨r, hr, rfl⟩ := Option.map_eq_some_iff.mp hs
    obtain ⟨r', hr', -, hinv⟩ := keCancelTimer_spec h t
    rw [hr'] at hr
    cases hr
    exact hinv
  | keReadStateTimer t =>
    obtain ⟨r, -, rfl⟩ := Option.map_eq_some_iff.mp hs
    exact h
  | elapse tp => exact inv_elapse h hs
  | callback tp place => exact inv_callback h hs

/-! ## What the calls return -/

theorem set_iff {dueTime : BitVec 64} {period tolerableDelay : BitVec 32} {dpc : Option Dpc}
    {created : Option Handle} (h : Inv s) (ha : SetAdmissible s t dueTime dpc created) :
    (keSetCoalescableTimer s t dueTime period tolerableDelay dpc created).map Prod.snd =
      some (s.latest t).armed ↔ (s.latest t).SetOk := by
  obtain ⟨r, hr, hresult, -⟩ :=
    keSetCoalescableTimer_spec period tolerableDelay h ha
  rw [hr, Option.map_some, Option.some.injEq, hresult, Arming.armed, Arming.SetOk]
  cases (s.latest t).cancelled <;> cases (s.latest t).oneShot <;>
    cases (s.latest t).expired <;> simp

theorem right_iff_told {a : Action} (h : Inv s) (ha : Admissible s a) : Right s a ↔ Told s a := by
  cases a with
  | keSetTimer t dueTime dpc created => exact set_iff h ha
  | keSetTimerEx t dueTime period dpc created => exact set_iff h ha
  | keSetCoalescableTimer t dueTime period tolerableDelay dpc created => exact set_iff h ha
  | keCancelTimer t =>
    obtain ⟨r, hr, hresult, -⟩ := keCancelTimer_spec h t
    rw [Right, Told, hr, Option.map_some, Option.some.injEq, hresult, Arming.armed, Arming.CancelOk]
    cases (s.latest t).cancelled <;> cases (s.latest t).oneShot <;> cases (s.latest t).expired <;>
      simp
  | keReadStateTimer t =>
    rw [Right, Told, keReadStateTimer_spec h, Arming.ReadOk, Option.some.injEq]
    cases (s.latest t).cancelled <;> cases (s.latest t).expired <;> simp
  | elapse tp => exact Iff.rfl
  | callback tp place => exact Iff.rfl

/--
For every sequence of calls for any timers, and whenever they elapse and their callbacks run: the
calls return what they should if and only if no one-shot timer is set that has expired, no periodic
one is cancelled that has, and no late callback has signaled a timer that is cancelled or read
before it expires.
-/
theorem results_iff (as : List Action) (h : Guarded step Admissible State.init as) :
    Guarded step Right State.init as ↔ Guarded step Told State.init as := by
  refine guarded_iff_of_contract (P := Inv) (fun s a hs ha => right_iff_told hs ha) ?_ inv_init h
  intro s a s' hs ha _ hstep
  exact inv_step hs ha hstep

/-- A one-shot timer is set again and expires, a periodic one is cancelled before it does. -/
def armedRun : List Action :=
  [.keSetTimer 0 (-300000000) (some 1) (some 10), .keSetTimer 0 (-1) (some 1) none, .elapse 10,
   .callback 10 0, .keReadStateTimer 0, .keCancelTimer 0, .keReadStateTimer 0,
   .keSetTimerEx 1 (-1) 1000 (some 2) (some 11), .keCancelTimer 1]

theorem results_iff_armedRun : Guarded step Right State.init armedRun :=
  (results_iff armedRun (guarded_of_check (by decide +kernel))).mpr
    (guarded_of_check (by decide +kernel))

/-- Set, expired and set again. -/
def setAfterExpiry : List Action :=
  [.keSetTimer 0 (-1) (some 1) (some 10), .elapse 10, .callback 10 0,
   .keSetTimer 0 (-1) (some 1) none]

/-- Set for every second, expired once and cancelled. -/
def cancelPeriodic : List Action :=
  [.keSetTimerEx 0 (-1) 1000 (some 1) (some 10), .elapse 10, .callback 10 0, .keCancelTimer 0]

/-- The set returns TRUE although nothing is armed, the cancel FALSE although the timer is. -/
theorem armed_misjudged :
    (Guarded step Admissible State.init setAfterExpiry ∧
      ¬ Guarded step Right State.init setAfterExpiry) ∧
    Guarded step Admissible State.init cancelPeriodic ∧
      ¬ Guarded step Right State.init cancelPeriodic := by
  refine ⟨⟨guarded_of_check (by decide +kernel), fun h => ?_⟩,
    guarded_of_check (by decide +kernel), fun h => ?_⟩
  · have hright := (((h.2 _ rfl).2 _ rfl).2 _ rfl).1
    exact absurd hright (by decide +kernel)
  · have hright := (((h.2 _ rfl).2 _ rfl).2 _ rfl).1
    exact absurd hright (by decide +kernel)

end Usersim.Timer
