import Usersim.Lib.Count
import Usersim.WorkItem.Basic

/-!
# Work items run down

The reference count of the rundown reference is the number of accepted calls whose callback has
not ended (`Inv.entry`), so a wait that finds it zero finds every accepted call finished. What has
happened to a call is told by its stage (`CallOk`).

* `work_items_run_down` — the protocol, for every interleaving in which nothing is queued in a
  release build once the wait has set the flag
* `queue_after_wait_submits` — a release build in which an item is queued after that
-/

namespace Usersim.WorkItem

open Lib Usersim.Rundown

variable {build : Build} {r : Ref} {s s' : State} {q : Nat} {call : QueueCall}

/-! ## What has happened to a call -/

def Stage.wasSubmitted : Stage → Bool
  | .submitted | .running | .routineDone | .finished => true
  | .rejected | .acquired => false

def Stage.ran : Stage → Bool
  | .running | .routineDone | .finished => true
  | .rejected | .acquired | .submitted => false

def Stage.completed : Stage → Bool
  | .routineDone | .finished => true
  | .rejected | .acquired | .submitted | .running => false

def State.runsOf (s : State) (q : Nat) : List (Nat × Option Item) :=
  s.runs.filter fun run => run.1 == q

structure CallOk (s : State) (q : Nat) (call : QueueCall) : Prop where
  accepted : call.accepted = true ↔ call.stage ≠ .rejected
  inTime : call.stage ≠ .rejected → call.afterWait = false
  item : call.needsItem = true → s.items call.item = some call.contents
  submitted : q ∈ s.submissions → call.stage.wasSubmitted = true
  runs : s.runsOf q = if call.stage.ran then [(q, some call.contents)] else []
  completions : s.completions.count q = if call.stage.completed then 1 else 0

/-- A call keeps its history if nothing is recorded for it and its item is left alone. -/
theorem CallOk.frame (hc : CallOk s q call)
    (hitem : call.needsItem = true → s'.items call.item = s.items call.item)
    (hsub : q ∈ s'.submissions → q ∈ s.submissions) (hruns : s'.runsOf q = s.runsOf q)
    (hcomp : s'.completions.count q = s.completions.count q) : CallOk s' q call where
  accepted := hc.accepted
  inTime := hc.inTime
  item := fun h => (hitem h).trans (hc.item h)
  submitted := fun h => hc.submitted (hsub h)
  runs := hruns.trans hc.runs
  completions := hcomp.trans hc.completions

/-- A call that has been submitted goes on. -/
theorem CallOk.advance {stage : Stage} (hc : CallOk s q call) (hold : call.stage ≠ .rejected)
    (hsub : stage.wasSubmitted = true)
    (hitem : { call with stage := stage }.needsItem = true →
      s'.items call.item = some call.contents)
    (hruns : s'.runsOf q = if stage.ran then [(q, some call.contents)] else [])
    (hcomp : s'.completions.count q = if stage.completed then 1 else 0) :
    CallOk s' q { call with stage := stage } where
  accepted := by
    have hnew : stage ≠ .rejected := by
      rintro rfl
      cases hsub
    simpa [hold, hnew] using hc.accepted
  inTime := fun _ => hc.inTime hold
  item := hitem
  submitted := fun _ => hsub
  runs := hruns
  completions := hcomp

/-! ## The invariant -/

structure Inv (r : Ref) (s : State) : Prop where
  entry : ∃ e, s.table r = some e ∧ e.refCount = s.outstanding ∧
    e.rundown = (s.wait != .notStarted)
  bound : ∀ q, s.nextCall ≤ q →
    s.calls q = none ∧ q ∉ s.submissions ∧ s.runsOf q = [] ∧ s.completions.count q = 0
  calls : ∀ q call, s.calls q = some call → CallOk s q call
  inCall : ∀ p q, s.inCall p = some q → ∃ call, s.calls q = some call ∧ call.stage = .acquired
  inCall_inj : ∀ p p' q, s.inCall p = some q → s.inCall p' = some q → p = p'
  returned : s.wait = .returned → s.outstanding = 0

theorem Inv.lt (hi : Inv r s) (hq : s.calls q = some call) : q < s.nextCall := by
  by_contra hlt
  have hnone := (hi.bound q (Nat.le_of_not_lt hlt)).1
  rw [hq] at hnone
  cases hnone

theorem inv_init (r : Ref) : Inv r (State.init r) where
  entry := by
    refine ⟨{ rundown := false, refCount := 0 }, ?_, rfl, rfl⟩
    simp [State.init, initializeRundownRef]
  bound := fun q _ => ⟨rfl, by simp [State.init], rfl, rfl⟩
  calls := fun q call h => by cases h
  inCall := fun p q h => by cases h
  inCall_inj := fun p p' q h => by cases h
  returned := fun h => by cases h

/-! ## A call goes on -/

/-- Call `q` goes to another stage; nothing is recorded for the other calls. -/
structure Advance (s : State) (q : Nat) (call : QueueCall) (stage : Stage) (s' : State) : Prop where
  found : s.calls q = some call
  calls : s'.calls = Function.update s.calls q (some { call with stage := stage })
  items : s'.items = s.items
  nextCall : s'.nextCall = s.nextCall
  wait : s'.wait = s.wait
  inCall : ∀ p q', s'.inCall p = some q' → s.inCall p = some q' ∧ q' ≠ q
  others : ∀ q', q' ≠ q → (q' ∈ s'.submissions → q' ∈ s.submissions) ∧
    s'.runsOf q' = s.runsOf q' ∧ s'.completions.count q' = s.completions.count q'

theorem Advance.holds_of_ne {stage : Stage} (ha : Advance s q call stage s') {q' : Nat}
    (hne : q' ≠ q) : s'.holds q' = s.holds q' := by
  unfold State.holds
  rw [ha.calls, Function.update_of_ne hne]

theorem Advance.holds_self {stage : Stage} (ha : Advance s q call stage s') :
    s'.holds q = { call with stage := stage }.holdsReference := by
  unfold State.holds
  rw [ha.calls, Function.update_self]
  rfl

/-- The count is the same unless the call ends. -/
theorem Advance.outstanding {stage : Stage} (ha : Advance s q call stage s')
    (hold : call.stage ≠ .finished) (hnew : stage ≠ .finished) :
    s'.outstanding = s.outstanding := by
  unfold State.outstanding
  rw [ha.nextCall]
  refine countP_range_congr ?_
  intro i _
  by_cases hiq : i = q
  · subst hiq
    have hold' : (call.stage != .finished) = true := bne_iff_ne.mpr hold
    have hnew' : (stage != .finished) = true := bne_iff_ne.mpr hnew
    rw [ha.holds_self]
    simp [State.holds, ha.found, QueueCall.holdsReference, hold', hnew']
  · exact ha.holds_of_ne hiq

theorem Advance.inv {stage : Stage} (ha : Advance s q call stage s') (hi : Inv r s)
    (hentry : ∃ e, s'.table r = some e ∧ e.refCount = s'.outstanding ∧
      e.rundown = (s.wait != .notStarted))
    (hout : s'.outstanding ≤ s.outstanding)
    (hown : CallOk s' q { call with stage := stage }) : Inv r s' where
  entry := by
    rw [ha.wait]
    exact hentry
  bound := by
    intro q' hq'
    rw [ha.nextCall] at hq'
    have hlt := hi.lt ha.found
    have hne : q' ≠ q := by omega
    obtain ⟨hnone, hsub, hruns, hcomp⟩ := hi.bound q' hq'
    obtain ⟨hsub', hruns', hcomp'⟩ := ha.others q' hne
    refine ⟨?_, fun h => hsub (hsub' h), hruns'.trans hruns, hcomp'.trans hcomp⟩
    rw [ha.calls, Function.update_of_ne hne]
    exact hnone
  calls := by
    intro q' call' hq'
    rw [ha.calls] at hq'
    by_cases hne : q' = q
    · subst hne
      rw [Function.update_self] at hq'
      cases hq'
      exact hown
    · rw [Function.update_of_ne hne] at hq'
      obtain ⟨hsub', hruns', hcomp'⟩ := ha.others q' hne
      exact (hi.calls q' call' hq').frame (fun _ => by rw [ha.items]) hsub' hruns' hcomp'
  inCall := by
    intro p q' hp
    obtain ⟨hold, hne⟩ := ha.inCall p q' hp
    rw [ha.calls, Function.update_of_ne hne]
    exact hi.inCall p q' hold
  inCall_inj := by
    intro p p' q' hp hp'
    exact hi.inCall_inj p p' q' (ha.inCall p q' hp).1 (ha.inCall p' q' hp').1
  returned := by
    intro hret
    rw [ha.wait] at hret
    have hzero := hi.returned hret
    omega

/-- A call that goes on without giving its reference back. -/
theorem Advance.inv_of_table {stage : Stage} (ha : Advance s q call stage s') (hi : Inv r s)
    (htable : s'.table = s.table) (hold : call.stage ≠ .finished) (hnew : stage ≠ .finished)
    (hown : CallOk s' q { call with stage := stage }) : Inv r s' := by
  have hout := ha.outstanding hold hnew
  obtain ⟨e, he, hcount, hrundown⟩ := hi.entry
  refine ha.inv hi ⟨e, ?_, hcount.trans hout.symm, hrundown⟩ (Nat.le_of_eq hout) hown
  rw [htable]
  exact he

/-- Nobody is between the acquire and the submit of a call that is past it. -/
theorem Inv.not_inCall (hi : Inv r s) (hq : s.calls q = some call) (hstage : call.stage ≠ .acquired)
    (p : Party) (q' : Nat) (hp : s.inCall p = some q') : s.inCall p = some q' ∧ q' ≠ q := by
  refine ⟨hp, ?_⟩
  rintro rfl
  obtain ⟨call', hcall', hst⟩ := hi.inCall p q' hp
  rw [hq] at hcall'
  cases hcall'
  exact hstage hst

theorem inv_submit {p : Party} (hi : Inv r s) (hp : s.inCall p = some q)
    (hq : s.calls q = some call) :
    Inv r { s.setStage q call .submitted with
      inCall := Function.update s.inCall p none, submissions := q :: s.submissions } := by
  obtain ⟨call', hcall', hstage⟩ := hi.inCall p q hp
  rw [hq] at hcall'
  cases hcall'
  have hc := hi.calls q call hq
  have ha : Advance s q call .submitted { s.setStage q call .submitted with
      inCall := Function.update s.inCall p none, submissions := q :: s.submissions } := by
    refine ⟨hq, rfl, rfl, rfl, rfl, ?_, ?_⟩
    · intro p' q' hp'
      have hne : p' ≠ p := by
        rintro rfl
        simp at hp'
      simp only [Function.update_of_ne hne] at hp'
      exact ⟨hp', fun he => hne (hi.inCall_inj p' p q (he ▸ hp') hp)⟩
    · intro q' hne
      refine ⟨?_, rfl, rfl⟩
      simp [hne]
  refine ha.inv_of_table hi rfl (by simp [hstage]) (by simp) ?_
  refine hc.advance (by simp [hstage]) rfl ?_ ?_ ?_
  · exact fun _ => hc.item (by simp [QueueCall.needsItem, hstage])
  · simpa [hstage, Stage.ran, State.runsOf, State.setStage] using hc.runs
  · simpa [hstage, Stage.completed, State.setStage] using hc.completions

theorem inv_start (hi : Inv r s) (hq : s.calls q = some call) (hstage : call.stage = .submitted) :
    Inv r { s.setStage q call .running with runs := (q, s.items call.item) :: s.runs } := by
  have hc := hi.calls q call hq
  have ha : Advance s q call .running
      { s.setStage q call .running with runs := (q, s.items call.item) :: s.runs } := by
    refine ⟨hq, rfl, rfl, rfl, rfl, hi.not_inCall hq (by simp [hstage]), ?_⟩
    intro q' hne
    refine ⟨id, ?_, rfl⟩
    simp [State.runsOf, hne.symm]
  refine ha.inv_of_table hi rfl (by simp [hstage]) (by simp) ?_
  have hread := hc.item (by simp [QueueCall.needsItem, hstage])
  have hruns := hc.runs
  simp only [hstage, Stage.ran, State.runsOf, Bool.false_eq_true, if_false] at hruns
  refine hc.advance (by simp [hstage]) rfl ?_ ?_ ?_
  · simp [QueueCall.needsItem]
  · simp [State.runsOf, hread, hruns, Stage.ran]
  · simpa [hstage, Stage.completed, State.setStage] using hc.completions

theorem inv_routineReturns (hi : Inv r s) (hq : s.calls q = some call)
    (hstage : call.stage = .running) :
    Inv r { s.setStage q call .routineDone with completions := q :: s.completions } := by
  have hc := hi.calls q call hq
  have ha : Advance s q call .routineDone
      { s.setStage q call .routineDone with completions := q :: s.completions } := by
    refine ⟨hq, rfl, rfl, rfl, rfl, hi.not_inCall hq (by simp [hstage]), ?_⟩
    intro q' hne
    exact ⟨id, rfl, List.count_cons_of_ne hne.symm⟩
  refine ha.inv_of_table hi rfl (by simp [hstage]) (by simp) ?_
  have hcomp := hc.completions
  simp only [hstage, Stage.completed, Bool.false_eq_true, if_false] at hcomp
  refine hc.advance (by simp [hstage]) rfl ?_ ?_ ?_
  · simp [QueueCall.needsItem]
  · simpa [hstage, Stage.ran, State.runsOf, State.setStage] using hc.runs
  · simp [Stage.completed, hcomp]

/-- The callback ends and gives its reference back. -/
theorem inv_release {table : Table} (hi : Inv r s) (hq : s.calls q = some call)
    (hstage : call.stage = .routineDone) (htable : releaseRundownRef s.table r = .ok table) :
    Inv r { s.setStage q call .finished with table := table } := by
  have hc := hi.calls q call hq
  have hacc : call.accepted = true := hc.accepted.mpr (by simp [hstage])
  have ha : Advance s q call .finished { s.setStage q call .finished with table := table } := by
    refine ⟨hq, rfl, rfl, rfl, rfl, hi.not_inCall hq (by simp [hstage]), ?_⟩
    exact fun _ _ => ⟨id, rfl, rfl⟩
  have hout : s.outstanding =
      State.outstanding { s.setStage q call .finished with table := table } + 1 := by
    refine countP_range_flip (hi.lt hq) ?_ ?_ (fun i hiq => ha.holds_of_ne hiq)
    · simp [State.holds, hq, QueueCall.holdsReference, hacc, hstage]
    · rw [ha.holds_self]
      simp [QueueCall.holdsReference]
  obtain ⟨e, he, hcount, hrd⟩ := hi.entry
  simp only [releaseRundownRef, he] at htable
  split at htable
  · cases htable
  · cases htable
    refine ha.inv hi ⟨_, Function.update_self .., ?_, hrd⟩ (by omega) ?_
    · show e.refCount - 1 = _
      omega
    · refine hc.advance (by simp [hstage]) rfl ?_ ?_ ?_
      · simp [QueueCall.needsItem]
      · simpa [hstage, Stage.ran, State.runsOf, State.setStage] using hc.runs
      · simpa [hstage, Stage.completed, State.setStage] using hc.completions

/-- The release of a callback finds a reference to give back. -/
theorem release_ok (hi : Inv r s) (hq : s.calls q = some call)
    (hstage : call.stage = .routineDone) :
    ∃ table, releaseRundownRef s.table r = .ok table := by
  have hholds : s.holds q = true := by
    have hacc := (hi.calls q call hq).accepted.mpr (by simp [hstage])
    simp [State.holds, hq, QueueCall.holdsReference, hacc, hstage]
  have hpos : s.outstanding ≠ 0 := by
    intro hzero
    rw [not_of_countP_range_eq_zero hzero (hi.lt hq)] at hholds
    cases hholds
  obtain ⟨e, he, hcount, -⟩ := hi.entry
  have hne : e.refCount ≠ 0 := by omega
  simp only [releaseRundownRef, he, if_neg hne]
  exact ⟨_, rfl⟩

/-! ## Items -/

/-- A change of the items that no callback still needs. -/
theorem inv_items (hi : Inv r s) (items : Address → Option Item)
    (hkeep : ∀ q call, s.calls q = some call → call.needsItem = true →
      items call.item = s.items call.item) :
    Inv r { s with items := items } where
  entry := hi.entry
  bound := hi.bound
  calls := fun q call hq =>
    (hi.calls q call hq).frame (hkeep q call hq) id rfl rfl
  inCall := hi.inCall
  inCall_inj := hi.inCall_inj
  returned := hi.returned

/-! ## A new call -/

theorem runsOf_of_runs (h : s'.runs = s.runs) (q : Nat) : s'.runsOf q = s.runsOf q := by
  unfold State.runsOf
  rw [h]

/-- What a new call adds, accepted or rejected. -/
theorem inv_new (hi : Inv r s) (hcalls : s'.calls = Function.update s.calls s.nextCall (some call))
    (hnext : s'.nextCall = s.nextCall + 1) (hitems : s'.items = s.items)
    (hsub : s'.submissions = s.submissions) (hruns : s'.runs = s.runs)
    (hcomp : s'.completions = s.completions) (hwait : s'.wait = s.wait)
    (hentry : ∃ e, s'.table r = some e ∧ e.refCount = s'.outstanding ∧
      e.rundown = (s.wait != .notStarted))
    (hout : s.wait = .returned → s'.outstanding = s.outstanding)
    (hinCall : ∀ p q, s'.inCall p = some q → s.inCall p = some q ∨
      q = s.nextCall ∧ call.stage = .acquired)
    (hinj : ∀ p p' q, s'.inCall p = some q → s'.inCall p' = some q → p = p')
    (hcall : CallOk s s.nextCall call) : Inv r s' where
  entry := by
    rw [hwait]
    exact hentry
  bound := by
    intro q hq
    rw [hnext] at hq
    obtain ⟨hnone, hs, hr, hc⟩ := hi.bound q (by omega)
    have hne : q ≠ s.nextCall := by omega
    rw [hcalls, Function.update_of_ne hne, hsub, runsOf_of_runs hruns, hcomp]
    exact ⟨hnone, hs, hr, hc⟩
  calls := by
    intro q call' hq
    have hok : CallOk s q call' := by
      rw [hcalls] at hq
      by_cases hne : q = s.nextCall
      · subst hne
        rw [Function.update_self] at hq
        cases hq
        exact hcall
      · rw [Function.update_of_ne hne] at hq
        exact hi.calls q call' hq
    refine hok.frame (fun _ => by rw [hitems]) ?_ (runsOf_of_runs hruns q) (by rw [hcomp])
    rw [hsub]
    exact id
  inCall := by
    intro p q hp
    rcases hinCall p q hp with hold | ⟨rfl, hstage⟩
    · obtain ⟨call', hcall', hstage⟩ := hi.inCall p q hold
      have hne : q ≠ s.nextCall := Nat.ne_of_lt (hi.lt hcall')
      rw [hcalls, Function.update_of_ne hne]
      exact ⟨call', hcall', hstage⟩
    · rw [hcalls, Function.update_self]
      exact ⟨call, rfl, hstage⟩
  inCall_inj := hinj
  returned := by
    intro hret
    rw [hwait] at hret
    rw [hout hret]
    exact hi.returned hret

/-- The count after a new call. -/
theorem outstanding_new (s s' : State)
    (hcalls : s'.calls = Function.update s.calls s.nextCall (some call))
    (hnext : s'.nextCall = s.nextCall + 1) :
    s'.outstanding = s.outstanding + if call.holdsReference = true then 1 else 0 := by
  unfold State.outstanding
  rw [hnext, countP_range_succ s.holds]
  · unfold State.holds
    rw [hcalls, Function.update_self]
    rfl
  · intro i hilt
    unfold State.holds
    rw [hcalls, Function.update_of_ne (Nat.ne_of_lt hilt)]

/-- A party in a call after the new one: the one that made it, or one that was in a call before. -/
theorem inCall_new {p p' : Party}
    (h : Function.update s.inCall p (some s.nextCall) p' = some q) :
    (p' = p ∧ q = s.nextCall) ∨ s.inCall p' = some q := by
  by_cases hp : p' = p
  · subst hp
    rw [Function.update_self] at h
    exact .inl ⟨rfl, (Option.some.inj h).symm⟩
  · rw [Function.update_of_ne hp] at h
    exact .inr h

theorem inCall_new_inj (hi : Inv r s) {p p₁ p₂ : Party}
    (h₁ : Function.update s.inCall p (some s.nextCall) p₁ = some q)
    (h₂ : Function.update s.inCall p (some s.nextCall) p₂ = some q) : p₁ = p₂ := by
  -- no party was in the new call before
  have hfresh : ∀ p', s.inCall p' ≠ some s.nextCall := by
    intro p' hp'
    obtain ⟨call', hcall', -⟩ := hi.inCall p' _ hp'
    exact Nat.lt_irrefl _ (hi.lt hcall')
  rcases inCall_new h₁ with ⟨rfl, hq₁⟩ | hold₁
  · rcases inCall_new h₂ with ⟨rfl, -⟩ | hold₂
    · rfl
    · exact absurd (hq₁ ▸ hold₂) (hfresh p₂)
  · rcases inCall_new h₂ with ⟨rfl, hq₂⟩ | hold₂
    · exact absurd (hq₂ ▸ hold₁) (hfresh p₁)
    · exact hi.inCall_inj p₁ p₂ q hold₁ hold₂

/-- The flag is set: in a debug build the assertion ends the process. -/
theorem inv_rejected {p : Party} {item : Address} {contents : Item} (hi : Inv r s) :
    Inv r (s.queue .debug p item contents false s.table) := by
  obtain ⟨e, he, hcount, hrundown⟩ := hi.entry
  obtain ⟨-, hsub, hruns, hcomp⟩ := hi.bound s.nextCall (Nat.le_refl _)
  have hcalls : (s.queue .debug p item contents false s.table).calls =
      Function.update s.calls s.nextCall (some
        { item := item, contents := contents, accepted := false
          afterWait := s.wait != .notStarted, stage := .rejected }) := rfl
  have hout := outstanding_new s (s.queue .debug p item contents false s.table) hcalls rfl
  simp only [QueueCall.holdsReference, Bool.false_and, Bool.false_eq_true, if_false,
    Nat.add_zero] at hout
  refine inv_new hi hcalls rfl rfl rfl rfl rfl rfl ⟨e, he, hcount.trans hout.symm, hrundown⟩
    (fun _ => hout) (fun p q hp => .inl hp) hi.inCall_inj ?_
  constructor
  · simp
  · exact fun h => absurd rfl h
  · simp [QueueCall.needsItem]
  · exact fun h => absurd h hsub
  · simpa [Stage.ran] using hruns
  · simpa [Stage.completed] using hcomp

/-- The flag is not set: the call holds a reference. -/
theorem inv_accepted {p : Party} {item : Address} {contents : Item} {e : Entry} (hi : Inv r s)
    (hitem : s.items item = some contents) (hbound : s.outstanding + 1 < 2 ^ 64)
    (he : s.table r = some e) (hflag : e.rundown = false) :
    Inv r (s.queue build p item contents true (Function.update s.table r (some
      { e with refCount := (e.refCount + 1) % 2 ^ 64 }))) := by
  obtain ⟨e', he', hcount, hrundown⟩ := hi.entry
  rw [he] at he'
  cases he'
  obtain ⟨-, hsub, hruns, hcomp⟩ := hi.bound s.nextCall (Nat.le_refl _)
  have hnot : s.wait = .notStarted := by
    rw [hflag] at hrundown
    simpa using hrundown
  have hcalls : (s.queue build p item contents true (Function.update s.table r (some
      { e with refCount := (e.refCount + 1) % 2 ^ 64 }))).calls =
      Function.update s.calls s.nextCall (some
        { item := item, contents := contents, accepted := true
          afterWait := s.wait != .notStarted, stage := .acquired }) := rfl
  have hout := outstanding_new s _ hcalls rfl
  simp only [QueueCall.holdsReference, Bool.true_and] at hout
  refine inv_new hi hcalls rfl rfl rfl rfl rfl rfl ⟨_, Function.update_self .., ?_, hrundown⟩ ?_ ?_
    ?_ ?_
  · rw [hout, ← hcount]
    exact Nat.mod_eq_of_lt (by omega)
  · intro hret
    rw [hnot] at hret
    cases hret
  · intro p' q hp'
    rcases inCall_new hp' with ⟨-, rfl⟩ | hold
    · exact .inr ⟨rfl, rfl⟩
    · exact .inl hold
  · exact fun p₁ p₂ q h₁ h₂ => inCall_new_inj hi h₁ h₂
  · constructor
    · simp
    · simp [hnot]
    · exact fun _ => hitem
    · exact fun h => absurd h hsub
    · simpa [Stage.ran] using hruns
    · simpa [Stage.completed] using hcomp

theorem inv_queue {p : Party} {item : Address} {contents : Item} {accepted : Bool} {table : Table}
    (hi : Inv r s) (hitem : s.items item = some contents) (hbound : s.outstanding + 1 < 2 ^ 64)
    (htime : build = .debug ∨ s.wait = .notStarted)
    (htable : acquireRundownRef s.table r = .ok (accepted, table)) :
    Inv r (s.queue build p item contents accepted table) := by
  obtain ⟨e, he, -, hrundown⟩ := hi.entry
  simp only [acquireRundownRef, he] at htable
  split at htable
  · rename_i hflag
    cases htable
    have hstarted : s.wait ≠ .notStarted := by
      intro hw
      rw [hflag, hw] at hrundown
      cases hrundown
    obtain rfl := htime.resolve_right hstarted
    exact inv_rejected hi
  · rename_i hflag
    cases htable
    exact inv_accepted hi hitem hbound he (Bool.eq_false_iff.mpr hflag)

/-! ## The wait -/

theorem inv_wait {done : Bool} {table : Table} (hi : Inv r s)
    (htable : waitForRundownRef s.table r = .ok (done, table)) :
    Inv r { s with table := table, wait := if done then .returned else .sleeping } := by
  obtain ⟨e, he, hcount, -⟩ := hi.entry
  simp only [waitForRundownRef, he] at htable
  cases htable
  refine ⟨⟨_, Function.update_self .., hcount, ?_⟩, hi.bound, ?_, hi.inCall, hi.inCall_inj, ?_⟩
  · by_cases hzero : e.refCount = 0 <;> simp [hzero]
  · exact fun q call hq => (hi.calls q call hq).frame (fun _ => rfl) id rfl rfl
  · intro hret
    by_cases hzero : e.refCount = 0
    · exact hcount.symm.trans hzero
    · simp [hzero] at hret

theorem inv_wakeUp (hi : Inv r s) (hsleep : s.wait = .sleeping)
    (hpred : waitPredicate s.table r = true) : Inv r { s with wait := .returned } := by
  obtain ⟨e, he, hcount, hrd⟩ := hi.entry
  simp only [waitPredicate, he, beq_iff_eq] at hpred
  refine ⟨⟨e, he, hcount, ?_⟩, hi.bound, ?_, hi.inCall, hi.inCall_inj, ?_⟩
  · rw [hrd, hsleep]
    rfl
  · exact fun q call hq => (hi.calls q call hq).frame (fun _ => rfl) id rfl rfl
  · exact fun _ => hcount.symm.trans hpred

/-! ## Every run -/

/-- What the theorem asks of the steps of a run. -/
def Allowed (build : Build) (s : State) (a : Action) : Prop :=
  Admissible s a ∧ QueuedInTime build s a

instance (build : Build) (s : State) (a : Action) : Decidable (Allowed build s a) :=
  inferInstanceAs (Decidable (_ ∧ _))

theorem inv_step {a : Action} (hi : Inv r s) (hg : Allowed build s a)
    (h : step build r s a = some s') : Inv r s' := by
  obtain ⟨hadm, htime⟩ := hg
  simp only [step] at h
  split at h
  · cases h
  cases a with
  | allocate p item contents =>
    simp only [Option.ite_none_right_eq_some, Option.some.injEq] at h
    obtain ⟨⟨-, hfree⟩, rfl⟩ := h
    refine inv_items hi _ ?_
    intro q call hq hneeds
    have hitem := (hi.calls q call hq).item hneeds
    refine Function.update_of_ne ?_ ..
    rintro rfl
    rw [hfree] at hitem
    cases hitem
  | free p item =>
    simp only [Option.ite_none_right_eq_some, Option.some.injEq] at h
    obtain ⟨-, rfl⟩ := h
    refine inv_items hi _ ?_
    intro q call hq hneeds
    refine Function.update_of_ne ?_ ..
    rintro rfl
    have hnone := hadm q (hi.lt hq)
    simp [hq, hneeds] at hnone
  | queue p item =>
    simp only at h
    split at h
    · rename_i contents accepted table hitem htable
      simp only [Option.ite_none_right_eq_some, Option.some.injEq] at h
      obtain ⟨-, rfl⟩ := h
      exact inv_queue hi hitem hadm htime htable
    · cases h
  | submit p =>
    simp only at h
    split at h
    · cases h
    · rename_i q hp
      obtain ⟨call, hq, rfl⟩ := Option.map_eq_some_iff.mp h
      exact inv_submit hi hp hq
  | start q =>
    simp only at h
    split at h
    · cases h
    · rename_i call hq
      simp only [Option.ite_none_right_eq_some, Option.some.injEq] at h
      obtain ⟨hstage, rfl⟩ := h
      exact inv_start hi hq hstage
  | routineReturns q =>
    simp only at h
    split at h
    · cases h
    · rename_i call hq
      simp only [Option.ite_none_right_eq_some, Option.some.injEq] at h
      obtain ⟨⟨hstage, -⟩, rfl⟩ := h
      exact inv_routineReturns hi hq hstage
  | release q =>
    simp only at h
    split at h
    · cases h
    · rename_i call hq
      simp only [Option.ite_none_right_eq_some] at h
      obtain ⟨hstage, h⟩ := h
      obtain ⟨table, htable⟩ := release_ok hi hq hstage
      rw [htable] at h
      cases h
      exact inv_release hi hq hstage htable
  | wait =>
    simp only [Option.ite_none_right_eq_some] at h
    obtain ⟨-, h⟩ := h
    split at h
    · cases h
    · rename_i done table htable
      cases h
      exact inv_wait hi htable
  | wakeUp =>
    simp only [Option.ite_none_right_eq_some, Option.some.injEq] at h
    obtain ⟨⟨hsleep, hpred⟩, rfl⟩ := h
    exact inv_wakeUp hi hsleep hpred

theorem inv_exec {run : List Action}
    (hg : Guarded (step build r) (Allowed build) (State.init r) run)
    (h : exec (step build r) (State.init r) run = some s) : Inv r s :=
  exec_invariant_of_guard (fun _ _ _ hi hg hs => inv_step hi hg hs) (inv_init r) hg h

/-- Once the wait has returned, the callback of every accepted call has ended. -/
theorem Inv.finished (hi : Inv r s) (hret : s.wait = .returned) (hq : s.calls q = some call)
    (hacc : call.accepted = true) : call.stage = .finished := by
  have hholds := not_of_countP_range_eq_zero (hi.returned hret) (hi.lt hq)
  simp only [State.holds, hq, Option.any_some, QueueCall.holdsReference, hacc,
    Bool.true_and] at hholds
  simpa using hholds

/-- What a wait for the work items promises. -/
structure RunDown (s : State) : Prop where
  ran : s.wait = .returned → ∀ q call, s.calls q = some call → call.accepted = true →
    s.runsOf q = [(q, some call.contents)] ∧ s.completions.count q = 1
  idle : s.wait = .returned → ∀ q call, s.calls q = some call →
    call.stage ≠ .running ∧ call.stage ≠ .routineDone
  rejected : ∀ q call, s.calls q = some call → call.afterWait = true →
    call.accepted = false ∧ q ∉ s.submissions

theorem work_items_run_down (build : Build) (r : Ref) (run : List Action) (s : State)
    (hg : Guarded (step build r) (Allowed build) (State.init r) run)
    (h : exec (step build r) (State.init r) run = some s) : RunDown s := by
  have hi := inv_exec hg h
  constructor
  · intro hret q call hq hacc
    have hc := hi.calls q call hq
    have hruns := hc.runs
    have hcomp := hc.completions
    rw [hi.finished hret hq hacc] at hruns hcomp
    exact ⟨hruns, hcomp⟩
  · intro hret q call hq
    by_cases hacc : call.accepted = true
    · rw [hi.finished hret hq hacc]
      simp
    · have hstage : call.stage = .rejected := by
        by_contra hne
        exact hacc ((hi.calls q call hq).accepted.mpr hne)
      rw [hstage]
      simp
  · intro q call hq hafter
    have hc := hi.calls q call hq
    have hstage : call.stage = .rejected := by
      by_contra hne
      rw [hc.inTime hne] at hafter
      cases hafter
    refine ⟨?_, ?_⟩
    · rw [← Bool.not_eq_true]
      exact fun hacc => hc.accepted.mp hacc hstage
    · intro hmem
      have hsub := hc.submitted hmem
      rw [hstage] at hsub
      cases hsub

/-! ## Concrete runs -/

/-- An item whose routine queues it again and then frees it, and a wait that sleeps. -/
def selfQueueing : List Action :=
  [.allocate (.thread 0) 0x100 ⟨1, 7⟩, .queue (.thread 0) 0x100, .submit (.thread 0), .start 0,
   .queue (.callback 0) 0x100, .wait, .submit (.callback 0), .routineReturns 0, .release 0,
   .start 1, .free (.callback 1) 0x100, .routineReturns 1, .release 1, .wakeUp]

theorem work_items_run_down_selfQueueing :
    ∃ s, exec (step .release 0x10) (State.init 0x10) selfQueueing = some s ∧
      s.wait = .returned ∧ s.completions = [1, 0] ∧ RunDown s := by
  obtain ⟨s, hs, hret, hcomp⟩ :
      ∃ s, exec (step .release 0x10) (State.init 0x10) selfQueueing = some s ∧
        s.wait = .returned ∧ s.completions = [1, 0] := exec_of_check (by decide +kernel)
  have hg : Guarded (step .release 0x10) (Allowed .release) (State.init 0x10) selfQueueing :=
    guarded_of_check (by decide +kernel)
  exact ⟨s, hs, hret, hcomp, work_items_run_down .release 0x10 selfQueueing s hg hs⟩

/-- In a release build an item is queued after a wait that had nothing to wait for. -/
def queueAfterWait : List Action :=
  [.allocate (.thread 0) 0x100 ⟨1, 7⟩, .wait, .queue (.thread 0) 0x100, .submit (.thread 0)]

theorem queue_after_wait_submits :
    ∃ s, exec (step .release 0x10) (State.init 0x10) queueAfterWait = some s ∧
      ∃ q call, s.calls q = some call ∧ call.afterWait = true ∧ q ∈ s.submissions := by
  obtain ⟨s, hs, hafter, hsub⟩ :
      ∃ s, exec (step .release 0x10) (State.init 0x10) queueAfterWait = some s ∧
        (s.calls 0).any QueueCall.afterWait = true ∧ 0 ∈ s.submissions :=
    exec_of_check (by decide +kernel)
  cases hq : s.calls 0 with
  | none =>
    rw [hq] at hafter
    cases hafter
  | some call =>
    rw [hq] at hafter
    exact ⟨s, hs, 0, call, hq, hafter, hsub⟩

end Usersim.WorkItem
