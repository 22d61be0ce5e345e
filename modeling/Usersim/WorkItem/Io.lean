import Usersim.WorkItem.RunDown

/-!
# Io work items (`io.cpp`)

An `IO_WORKITEM` has a preemptible work item whose routine is `io_work_item_wrapper`.
`IoQueueWorkItem` writes the routine and its context into the `IO_WORKITEM` and then queues the
preemptible work item; the wrapper reads them when it runs, at any later time and on another thread.

* `refines_workItem` — what is done to the preemptible work items is a run of these, within their
  promises
* `io_work_items_delivered` — every routine is called once, with what it was queued with
-/

namespace Usersim.WorkItem.Io

open Lib Usersim.Rundown

/-- The call of a routine. -/
structure Invocation where
  routine : Nat
  deviceObject : Nat
  context : Nat
deriving DecidableEq, Repr

/-- `IO_WORKITEM`. -/
structure IoWorkItem where
  deviceObject : Nat
  cxplatWorkItem : Address
  routine : Nat
  context : Nat
deriving DecidableEq, Repr

def IoWorkItem.invocation (i : IoWorkItem) : Invocation := ⟨i.routine, i.deviceObject, i.context⟩

/-- The routine of the preemptible work items. -/
def ioWorkItemWrapper : Nat := 1

/-- What `IoAllocateWorkItem` makes of a block, which is zeroed. -/
def ioAllocateWorkItem (deviceObject : Nat) (cxplatWorkItem : Address) : IoWorkItem where
  deviceObject := deviceObject
  cxplatWorkItem := cxplatWorkItem
  routine := 0
  context := 0

/-- A call of `IoQueueWorkItem`: its item, and what it asks for. -/
structure Request where
  item : Address
  invocation : Invocation
deriving DecidableEq, Repr

structure State where
  cxplat : WorkItem.State
  items : Address → Option IoWorkItem
  /-- The calls of `IoQueueWorkItem` that have written the item, but not queued it yet. -/
  storing : List (Party × Request)
  /-- The requests of the calls that have. Not part of the code. -/
  requests : Nat → Option Request
  /-- What `io_work_item_wrapper` has called. -/
  invocations : List (Nat × Option Invocation)

def State.init (r : Ref) : State where
  cxplat := WorkItem.State.init r
  items := fun _ => none
  storing := []
  requests := fun _ => none
  invocations := []

def State.invocationsOf (s : State) (q : Nat) : List (Nat × Option Invocation) :=
  s.invocations.filter fun i => i.1 == q

inductive Action where
  /-- `IoAllocateWorkItem`; there are no blocks if one of the two allocations fails, or the creation
  of the thread pool work. -/
  | allocate (p : Party) (deviceObject : Nat) (blocks : Option (Address × Address))
  /-- The writes with which `IoQueueWorkItem` starts. -/
  | store (p : Party) (item : Address) (routine context : Nat)
  | queue (p : Party)
  | submit (p : Party)
  | start (call : Nat)
  /-- The wrapper reads the item and calls the routine. -/
  | invoke (call : Nat)
  | routineReturns (call : Nat)
  | release (call : Nat)
  | free (p : Party) (item : Address)
  | wait
  | wakeUp
deriving DecidableEq, Repr

/-- A routine makes calls once it has been called. -/
def State.canAct (s : State) (p : Party) : Bool :=
  s.cxplat.canAct p && s.storing.all (fun e => e.1 != p) &&
    match p with
    | .thread _ => true
    | .callback q => s.invocationsOf q != []

def State.withCxplat (s : State) (c : Option WorkItem.State) : Option State :=
  c.map fun c => { s with cxplat := c }

def step (build : Build) (r : Ref) (s : State) (a : Action) : Option State :=
  if s.cxplat.terminated then none
  else
    match a with
    | .allocate p deviceObject blocks =>
      if s.canAct p then
        match blocks with
        | none => some s
        | some (item, cx) =>
          (WorkItem.step build r s.cxplat (.allocate p cx ⟨ioWorkItemWrapper, item.toNat⟩)).map
            fun c => { s with
              cxplat := c
              items := Function.update s.items item (some (ioAllocateWorkItem deviceObject cx)) }
      else none
    | .store p item routine context =>
      if s.canAct p then
        (s.items item).map fun i =>
          let i := { i with routine := routine, context := context }
          { s with
            items := Function.update s.items item (some i)
            storing := (p, ⟨item, i.invocation⟩) :: s.storing }
      else none
    | .queue p =>
      (s.storing.find? fun e => e.1 == p).bind fun e =>
        (s.items e.2.item).bind fun i =>
          (WorkItem.step build r s.cxplat (.queue p i.cxplatWorkItem)).map fun c =>
            { s with
              cxplat := c
              storing := s.storing.erase e
              requests := Function.update s.requests s.cxplat.nextCall (some e.2) }
    | .submit p => s.withCxplat (WorkItem.step build r s.cxplat (.submit p))
    | .start q => s.withCxplat (WorkItem.step build r s.cxplat (.start q))
    | .invoke q =>
      if (s.cxplat.calls q).any (fun call => call.stage == .running) && s.invocationsOf q == [] then
        -- the context of the preemptible work item is the address of the other one
        (s.cxplat.runsOf q).head?.bind fun run =>
          run.2.map fun contents =>
            let item := s.items (BitVec.ofNat 64 contents.workItemContext)
            { s with invocations := (q, item.map IoWorkItem.invocation) :: s.invocations }
      else none
    | .routineReturns q =>
      if s.invocationsOf q ≠ [] ∧ s.storing.all (fun e => e.1 != .callback q) then
        s.withCxplat (WorkItem.step build r s.cxplat (.routineReturns q))
      else none
    | .release q => s.withCxplat (WorkItem.step build r s.cxplat (.release q))
    | .free p item =>
      if s.canAct p then
        (s.items item).bind fun i =>
          (WorkItem.step build r s.cxplat (.free p i.cxplatWorkItem)).map fun c =>
            { s with cxplat := c, items := Function.update s.items item none }
      else none
    | .wait => s.withCxplat (WorkItem.step build r s.cxplat .wait)
    | .wakeUp => s.withCxplat (WorkItem.step build r s.cxplat .wakeUp)

/-- Nobody is about to queue the item, and the wrapper has read it for every time it was queued. -/
def Idle (s : State) (item : Address) : Prop :=
  (∀ e ∈ s.storing, e.2.item ≠ item) ∧
    ∀ q < s.cxplat.nextCall, (s.requests q).any (fun req => req.item == item) = true →
      s.invocationsOf q ≠ []

instance (s : State) (item : Address) : Decidable (Idle s item) :=
  inferInstanceAs (Decidable (_ ∧ _))

/-- The promises: blocks are new ones, an item is neither queued again nor freed before its routine
has been called, fewer than `2 ^ 64` calls are outstanding, and in a release build nothing is queued
once the wait has set the flag. -/
def Allowed (build : Build) (s : State) : Action → Prop
  | .allocate _ _ (some (item, _)) => s.items item = none
  | .store _ item _ _ | .free _ item => Idle s item
  | .queue _ => s.cxplat.outstanding + 1 < 2 ^ 64 ∧
      (build = .debug ∨ s.cxplat.wait = .notStarted)
  | _ => True

instance (build : Build) (s : State) (a : Action) : Decidable (Allowed build s a) :=
  match a with
  | .allocate _ _ (some _) => inferInstanceAs (Decidable (_ = _))
  | .store .. | .free .. => inferInstanceAs (Decidable (Idle ..))
  | .queue _ => inferInstanceAs (Decidable (_ ∧ _))
  | .allocate _ _ none | .submit _ | .start _ | .invoke _ | .routineReturns _ | .release _ | .wait
  | .wakeUp => isTrue trivial

/-- What is found in a map after a write. -/
theorem update_eq_some {α β : Type*} [DecidableEq α] {f : α → Option β} {a b : α}
    {x : Option β} {y : β}
    (h : Function.update f a x b = some y) : b = a ∧ x = some y ∨ b ≠ a ∧ f b = some y := by
  by_cases hb : b = a
  · subst hb
    rw [Function.update_self] at h
    exact .inl ⟨rfl, h⟩
  · rw [Function.update_of_ne hb] at h
    exact .inr ⟨hb, h⟩

/-! ## The invariant -/

variable {build : Build} {r : Ref} {s s' : State} {q : Nat} {call : QueueCall} {req : Request}

/-- A call, its request, and what has become of it. -/
structure Matches (s : State) (q : Nat) (call : QueueCall) (req : Request) : Prop where
  contents : call.contents = ⟨ioWorkItemWrapper, req.item.toNat⟩
  pending : call.stage ≠ .rejected → s.invocationsOf q = [] →
    ∃ i, s.items req.item = some i ∧ i.cxplatWorkItem = call.item ∧ i.invocation = req.invocation
  invoked : s.invocationsOf q ≠ [] →
    s.invocationsOf q = [(q, some req.invocation)] ∧ call.stage.ran = true
  done : call.stage.completed = true → s.invocationsOf q ≠ []

structure Inv (r : Ref) (s : State) : Prop where
  cxplat : WorkItem.Inv r s.cxplat
  held : ∀ item i, s.items item = some i →
    s.cxplat.items i.cxplatWorkItem = some ⟨ioWorkItemWrapper, item.toNat⟩
  storing : ∀ e ∈ s.storing, ∃ i, s.items e.2.item = some i ∧ i.invocation = e.2.invocation
  calls : ∀ q call, s.cxplat.calls q = some call →
    ∃ req, s.requests q = some req ∧ Matches s q call req
  fresh : ∀ q, s.cxplat.calls q = none → s.invocationsOf q = []

theorem inv_init (r : Ref) : Inv r (State.init r) where
  cxplat := WorkItem.inv_init r
  held := nofun
  storing := nofun
  calls := nofun
  fresh := fun _ _ => rfl

/-- No two items have the same preemptible work item. -/
theorem Inv.unique (h : Inv r s) {item item' : Address} {i i' : IoWorkItem}
    (hi : s.items item = some i) (hi' : s.items item' = some i')
    (heq : i.cxplatWorkItem = i'.cxplatWorkItem) : item = item' := by
  have hheld := h.held item i hi
  rw [heq, h.held item' i' hi'] at hheld
  simp only [Option.some.injEq, Item.mk.injEq, true_and] at hheld
  exact (BitVec.eq_of_toNat_eq hheld).symm

/-! ## Steps of the preemptible work items -/

variable {c c' : WorkItem.State}

/-- A call goes on to another stage; the items and the other calls stay as they are. -/
structure Moves (c c' : WorkItem.State) (q : Nat) (call : QueueCall) (stage : Stage) : Prop where
  found : c.calls q = some call
  calls : c'.calls = Function.update c.calls q (some { call with stage := stage })
  items : c'.items = c.items
  rejected : stage ≠ .rejected
  was : call.stage ≠ .rejected
  ran : call.stage.ran = true → stage.ran = true

/-- What a step does that is taken on behalf of a call. -/
theorem moves_submit {p : Party} (hi : WorkItem.Inv r c)
    (h : WorkItem.step build r c (.submit p) = some c') :
    ∃ q call, Moves c c' q call .submitted := by
  simp only [WorkItem.step] at h
  split at h
  · cases h
  split at h
  · cases h
  · rename_i q hp
    obtain ⟨call, hq, rfl⟩ := Option.map_eq_some_iff.mp h
    obtain ⟨call', hq', hstage⟩ := hi.inCall p q hp
    obtain rfl := Option.some.inj (hq.symm.trans hq')
    exact ⟨q, call, hq, rfl, rfl, by simp, by simp [hstage], by simp [hstage, Stage.ran]⟩

theorem moves_start (h : WorkItem.step build r c (.start q) = some c') :
    ∃ call, Moves c c' q call .running := by
  simp only [WorkItem.step] at h
  split at h
  · cases h
  split at h
  · cases h
  · rename_i call hq
    simp only [Option.ite_none_right_eq_some, Option.some.injEq] at h
    obtain ⟨hstage, rfl⟩ := h
    exact ⟨call, hq, rfl, rfl, by simp, by simp [hstage], fun _ => rfl⟩

theorem moves_routineReturns (h : WorkItem.step build r c (.routineReturns q) = some c') :
    ∃ call, Moves c c' q call .routineDone := by
  simp only [WorkItem.step] at h
  split at h
  · cases h
  split at h
  · cases h
  · rename_i call hq
    simp only [Option.ite_none_right_eq_some, Option.some.injEq] at h
    obtain ⟨⟨hstage, -⟩, rfl⟩ := h
    exact ⟨call, hq, rfl, rfl, by simp, by simp [hstage], fun _ => rfl⟩

theorem moves_release (hi : WorkItem.Inv r c)
    (h : WorkItem.step build r c (.release q) = some c') :
    ∃ call, Moves c c' q call .finished ∧ call.stage = .routineDone := by
  simp only [WorkItem.step] at h
  split at h
  · cases h
  split at h
  · cases h
  · rename_i call hq
    simp only [Option.ite_none_right_eq_some] at h
    obtain ⟨hstage, h⟩ := h
    obtain ⟨table, htable⟩ := release_ok hi hq hstage
    rw [htable] at h
    cases h
    exact ⟨call, ⟨hq, rfl, rfl, by simp, by simp [hstage], fun _ => rfl⟩, hstage⟩

/-- The wait leaves the calls and the items alone. -/
theorem calls_wait {b : WorkItem.Action} (hb : b = .wait ∨ b = .wakeUp)
    (h : WorkItem.step build r c b = some c') : c'.calls = c.calls ∧ c'.items = c.items := by
  rcases hb with rfl | rfl
  · simp only [WorkItem.step] at h
    split at h
    · cases h
    simp only [Option.ite_none_right_eq_some] at h
    obtain ⟨-, h⟩ := h
    split at h
    · cases h
    · cases h
      exact ⟨rfl, rfl⟩
  · simp only [WorkItem.step] at h
    split at h
    · cases h
    simp only [Option.ite_none_right_eq_some, Option.some.injEq] at h
    obtain ⟨-, rfl⟩ := h
    exact ⟨rfl, rfl⟩

theorem items_allocate {p : Party} {cx : Address} {contents : Item}
    (h : WorkItem.step build r c (.allocate p cx contents) = some c') :
    c.items cx = none ∧ c' = { c with items := Function.update c.items cx (some contents) } := by
  simp only [WorkItem.step] at h
  split at h
  · cases h
  simp only [Option.ite_none_right_eq_some, Option.some.injEq] at h
  exact ⟨h.1.2, h.2.symm⟩

theorem items_free {p : Party} {cx : Address}
    (h : WorkItem.step build r c (.free p cx) = some c') :
    c' = { c with items := Function.update c.items cx none } := by
  simp only [WorkItem.step] at h
  split at h
  · cases h
  simp only [Option.ite_none_right_eq_some, Option.some.injEq] at h
  exact h.2.symm

/-- The new call of a queue step. -/
theorem call_queue {p : Party} {cx : Address}
    (h : WorkItem.step build r c (.queue p cx) = some c') :
    ∃ contents call, c.items cx = some contents ∧ call.contents = contents ∧ call.item = cx ∧
      call.stage.completed = false ∧ c'.items = c.items ∧
      c'.calls = Function.update c.calls c.nextCall (some call) := by
  simp only [WorkItem.step] at h
  split at h
  · cases h
  split at h
  · rename_i contents accepted table hitem htable
    simp only [Option.ite_none_right_eq_some, Option.some.injEq] at h
    obtain ⟨-, rfl⟩ := h
    unfold WorkItem.State.queue
    split
    · exact ⟨contents, _, hitem, rfl, rfl, rfl, rfl, rfl⟩
    · exact ⟨contents, _, hitem, rfl, rfl, rfl, rfl, rfl⟩
  · cases h

/-! ## What the steps keep -/

theorem Inv.moves {stage : Stage} (h : Inv r s) (hm : Moves s.cxplat c q call stage)
    (hc : WorkItem.Inv r c) (hdone : stage.completed = true → s.invocationsOf q ≠ []) :
    Inv r { s with cxplat := c } := by
  refine ⟨hc, ?_, h.storing, ?_, ?_⟩
  · intro item i hi
    show c.items _ = _
    rw [hm.items]
    exact h.held item i hi
  · intro q' call' hq'
    have hq'' : c.calls q' = some call' := hq'
    rw [hm.calls] at hq''
    by_cases hne : q' = q
    · subst hne
      rw [Function.update_self] at hq''
      obtain rfl := Option.some.inj hq''
      obtain ⟨req, hreq, hmatch⟩ := h.calls q' call hm.found
      refine ⟨req, hreq, hmatch.contents, fun _ => hmatch.pending hm.was, fun hne => ?_, hdone⟩
      obtain ⟨hlist, hran⟩ := hmatch.invoked hne
      exact ⟨hlist, hm.ran hran⟩
    · rw [Function.update_of_ne hne] at hq''
      obtain ⟨req, hreq, hmatch⟩ := h.calls q' call' hq''
      exact ⟨req, hreq, hmatch.contents, hmatch.pending, hmatch.invoked, hmatch.done⟩
  · intro q' hq'
    refine h.fresh q' ?_
    by_contra hne
    have hnone : c.calls q' = none := hq'
    rw [hm.calls] at hnone
    by_cases heq : q' = q
    · rw [heq, Function.update_self] at hnone
      cases hnone
    · rw [Function.update_of_ne heq] at hnone
      exact hne hnone

theorem Inv.of_calls (h : Inv r s) (hc : WorkItem.Inv r c) (hcalls : c.calls = s.cxplat.calls)
    (hitems : c.items = s.cxplat.items) : Inv r { s with cxplat := c } := by
  refine ⟨hc, fun item i hi => ?_, h.storing, fun q call hq => ?_, fun q hq => h.fresh q ?_⟩
  · show c.items _ = _
    rw [hitems]
    exact h.held item i hi
  · obtain ⟨req, hreq, hmatch⟩ := h.calls q call (hcalls ▸ hq)
    exact ⟨req, hreq, hmatch.contents, hmatch.pending, hmatch.invoked, hmatch.done⟩
  · rw [← hcalls]
    exact hq

/-- A change of the items that are idle. -/
theorem Inv.items {item : Address} (h : Inv r s) (hidle : Idle s item)
    (hsame : ∀ item', item' ≠ item → s'.items item' = s.items item')
    (hc : WorkItem.Inv r s'.cxplat) (hcalls : s'.cxplat.calls = s.cxplat.calls)
    (hheld : ∀ item' i, s'.items item' = some i →
      s'.cxplat.items i.cxplatWorkItem = some ⟨ioWorkItemWrapper, item'.toNat⟩)
    (hstoring : ∀ e ∈ s'.storing, e ∈ s.storing ∨
      ∃ i, s'.items e.2.item = some i ∧ i.invocation = e.2.invocation)
    (hrequests : s'.requests = s.requests) (hinvocations : s'.invocations = s.invocations) :
    Inv r s' := by
  have hof : ∀ q, s'.invocationsOf q = s.invocationsOf q := by
    intro q
    rw [State.invocationsOf, hinvocations]
    rfl
  refine ⟨hc, hheld, ?_, ?_, ?_⟩
  · intro e he
    rcases hstoring e he with hold | hnew
    · rw [hsame _ (hidle.1 e hold)]
      exact h.storing e hold
    · exact hnew
  · intro q call hq
    rw [hcalls] at hq
    obtain ⟨req, hreq, hmatch⟩ := h.calls q call hq
    refine ⟨req, hrequests ▸ hreq, hmatch.contents, fun hstage hnil => ?_, ?_, ?_⟩
    · rw [hof] at hnil
      have hne : req.item ≠ item := by
        rintro rfl
        exact hidle.2 q (h.cxplat.lt hq) (by simp [hreq]) hnil
      rw [hsame _ hne]
      exact hmatch.pending hstage hnil
    · rw [hof]
      exact hmatch.invoked
    · rw [hof]
      exact hmatch.done
  · intro q hq
    rw [hof]
    rw [hcalls] at hq
    exact h.fresh q hq

theorem inv_store {p : Party} {item : Address} {routine context : Nat} {i : IoWorkItem}
    (h : Inv r s) (hidle : Idle s item) (hi : s.items item = some i) :
    Inv r { s with
      items := Function.update s.items item
        (some { i with routine := routine, context := context })
      storing := (p, ⟨item, { i with routine := routine, context := context }.invocation⟩) ::
        s.storing } := by
  refine h.items hidle (fun item' hne => Function.update_of_ne hne ..) h.cxplat rfl ?_ ?_ rfl rfl
  · intro item' i' hi'
    rcases update_eq_some hi' with ⟨rfl, hself⟩ | ⟨-, hold⟩
    · obtain rfl := Option.some.inj hself
      exact h.held item' i hi
    · exact h.held item' i' hold
  · intro e he
    rcases List.mem_cons.mp he with rfl | he
    · exact .inr ⟨_, Function.update_self .., rfl⟩
    · exact .inl he

theorem inv_free {item : Address} {i : IoWorkItem} (h : Inv r s) (hidle : Idle s item)
    (hi : s.items item = some i) (hc : WorkItem.Inv r c)
    (hfree : c = { s.cxplat with
      items := Function.update s.cxplat.items i.cxplatWorkItem none }) :
    Inv r { s with cxplat := c, items := Function.update s.items item none } := by
  refine h.items hidle (fun item' hne => Function.update_of_ne hne ..) hc (by rw [hfree]) ?_
    (fun e he => .inl he) rfl rfl
  intro item' i' hi'
  obtain ⟨hne, hold⟩ := (update_eq_some hi').resolve_left (by simp)
  have hcx : i'.cxplatWorkItem ≠ i.cxplatWorkItem := fun heq => hne (h.unique hold hi heq)
  show c.items _ = _
  rw [hfree]
  exact (Function.update_of_ne hcx ..).trans (h.held item' i' hold)

/-- The preemptible work item is not needed any more either. -/
theorem admissible_free {p : Party} {item : Address} {i : IoWorkItem} (h : Inv r s)
    (hidle : Idle s item) (hi : s.items item = some i) :
    WorkItem.Admissible s.cxplat (.free p i.cxplatWorkItem) := by
  intro q hlt
  cases hq : s.cxplat.calls q with
  | none => rfl
  | some call =>
    obtain ⟨req, hreq, hmatch⟩ := h.calls q call hq
    by_contra hneeds
    simp only [Option.any_some, Bool.not_eq_false, Bool.and_eq_true, beq_iff_eq] at hneeds
    obtain ⟨hitem, hneeds⟩ := hneeds
    have hstage : call.stage = .acquired ∨ call.stage = .submitted := by
      simpa [QueueCall.needsItem] using hneeds
    have hnil : s.invocationsOf q = [] := by
      by_contra hne
      have hran := (hmatch.invoked hne).2
      rcases hstage with hst | hst <;> simp [hst, Stage.ran] at hran
    obtain ⟨i', hi', hcx, -⟩ :=
      hmatch.pending (by rcases hstage with hst | hst <;> simp [hst]) hnil
    have heq : req.item = item := h.unique hi' hi (hcx.trans hitem)
    exact hidle.2 q hlt (by simp [hreq, heq]) hnil

theorem inv_allocate {item cx : Address} {deviceObject : Nat} (h : Inv r s)
    (hnew : s.items item = none) (hfree : s.cxplat.items cx = none) (hc : WorkItem.Inv r c)
    (hcx : c = { s.cxplat with
      items := Function.update s.cxplat.items cx (some ⟨ioWorkItemWrapper, item.toNat⟩) }) :
    Inv r { s with
      cxplat := c
      items := Function.update s.items item (some (ioAllocateWorkItem deviceObject cx)) } := by
  have hne : ∀ item' i, s.items item' = some i → item' ≠ item := by
    rintro item' i hi rfl
    rw [hnew] at hi
    cases hi
  refine ⟨hc, ?_, ?_, ?_, ?_⟩
  · intro item' i hi
    show c.items _ = _
    rw [hcx]
    rcases update_eq_some hi with ⟨rfl, hself⟩ | ⟨-, hold⟩
    · obtain rfl := Option.some.inj hself
      exact Function.update_self ..
    · have hheld := h.held item' i hold
      refine (Function.update_of_ne ?_ ..).trans hheld
      rintro rfl
      rw [hfree] at hheld
      cases hheld
  · intro e he
    obtain ⟨i, hi, hinv⟩ := h.storing e he
    exact ⟨i, (Function.update_of_ne (hne _ i hi) ..).trans hi, hinv⟩
  · intro q call hq
    have hq' : s.cxplat.calls q = some call := by
      rw [hcx] at hq
      exact hq
    obtain ⟨req, hreq, hmatch⟩ := h.calls q call hq'
    refine ⟨req, hreq, hmatch.contents, fun hstage hnil => ?_, hmatch.invoked, hmatch.done⟩
    obtain ⟨i, hi, hrest⟩ := hmatch.pending hstage hnil
    exact ⟨i, (Function.update_of_ne (hne _ i hi) ..).trans hi, hrest⟩
  · intro q hq
    refine h.fresh q ?_
    rw [hcx] at hq
    exact hq

theorem inv_queue {e : Party × Request} {i : IoWorkItem} (h : Inv r s) (he : e ∈ s.storing)
    (hi : s.items e.2.item = some i) (hc : WorkItem.Inv r c) {call : QueueCall} {contents : Item}
    (hcontents : s.cxplat.items i.cxplatWorkItem = some contents)
    (hcall : call.contents = contents) (hitem : call.item = i.cxplatWorkItem)
    (hstage : call.stage.completed = false) (hitems : c.items = s.cxplat.items)
    (hcalls : c.calls = Function.update s.cxplat.calls s.cxplat.nextCall (some call)) :
    Inv r { s with
      cxplat := c
      storing := s.storing.erase e
      requests := Function.update s.requests s.cxplat.nextCall (some e.2) } := by
  have hnone : s.cxplat.calls s.cxplat.nextCall = none := (h.cxplat.bound _ (Nat.le_refl _)).1
  have hnil := h.fresh _ hnone
  refine ⟨hc, fun item i' hi' => ?_, fun e' he' => h.storing e' (List.mem_of_mem_erase he'), ?_, ?_⟩
  · show c.items _ = _
    rw [hitems]
    exact h.held item i' hi'
  · intro q call' hq
    have hq' : c.calls q = some call' := hq
    rw [hcalls] at hq'
    rcases update_eq_some hq' with ⟨rfl, hnew⟩ | ⟨hne, hold⟩
    · obtain rfl := Option.some.inj hnew
      obtain ⟨i', hi', hinv⟩ := h.storing e he
      obtain rfl := Option.some.inj (hi.symm.trans hi')
      refine ⟨e.2, Function.update_self .., ?_, fun _ _ => ⟨i, hi, hitem.symm, hinv⟩,
        fun hne => absurd hnil hne, fun hdone => ?_⟩
      · rw [hcall]
        exact Option.some.inj (hcontents.symm.trans (h.held _ i hi))
      · rw [hstage] at hdone
        cases hdone
    · obtain ⟨req, hreq, hmatch⟩ := h.calls q call' hold
      exact ⟨req, (Function.update_of_ne hne ..).trans hreq, hmatch.contents, hmatch.pending,
        hmatch.invoked, hmatch.done⟩
  · intro q hq
    have hq' : c.calls q = none := hq
    by_cases hne : q = s.cxplat.nextCall
    · rw [hne]
      exact hnil
    · rw [hcalls, Function.update_of_ne hne] at hq'
      exact h.fresh q hq'

/-- The wrapper finds in the item what its call asked for. -/
theorem inv_invoke {item : Option IoWorkItem} {run : Nat × Option Item} {contents : Item}
    (h : Inv r s) (hq : s.cxplat.calls q = some call) (hstage : call.stage = .running)
    (hnil : s.invocationsOf q = []) (hrun : (s.cxplat.runsOf q).head? = some run)
    (hcontents : run.2 = some contents)
    (hitem : item = s.items (BitVec.ofNat 64 contents.workItemContext)) :
    Inv r { s with invocations := (q, item.map IoWorkItem.invocation) :: s.invocations } := by
  obtain ⟨req, hreq, hmatch⟩ := h.calls q call hq
  have hruns := (h.cxplat.calls q call hq).runs
  rw [hstage, Stage.ran, if_pos rfl] at hruns
  rw [hruns] at hrun
  obtain rfl := Option.some.inj hrun
  obtain rfl := Option.some.inj hcontents
  obtain ⟨i, hi, -, hinv⟩ := hmatch.pending (by simp [hstage]) hnil
  have hread : item = some i := by
    rw [hitem, hmatch.contents, BitVec.ofNat_toNat, BitVec.setWidth_eq]
    exact hi
  subst hread
  refine ⟨h.cxplat, h.held, h.storing, ?_, ?_⟩
  · intro q' call' hq'
    by_cases hne : q' = q
    · subst hne
      obtain rfl := Option.some.inj (hq.symm.trans hq')
      have hnew : State.invocationsOf { s with
          invocations := (q', (some i).map IoWorkItem.invocation) :: s.invocations } q' =
          [(q', some req.invocation)] := by
        simp only [State.invocationsOf] at hnil ⊢
        rw [List.filter_cons_of_pos (by simp), hnil, Option.map_some, hinv]
      refine ⟨req, hreq, hmatch.contents, ?_, fun _ => ⟨hnew, by simp [hstage, Stage.ran]⟩, ?_⟩
      · intro _ hempty
        rw [hnew] at hempty
        cases hempty
      · intro _ hempty
        rw [hnew] at hempty
        cases hempty
    · obtain ⟨req', hreq', hmatch'⟩ := h.calls q' call' hq'
      have hsame : State.invocationsOf { s with
          invocations := (q, (some i).map IoWorkItem.invocation) :: s.invocations } q' =
          s.invocationsOf q' :=
        List.filter_cons_of_neg (by simpa using Ne.symm hne)
      refine ⟨req', hreq', hmatch'.contents, ?_, ?_, ?_⟩
      · rw [hsame]
        exact hmatch'.pending
      · rw [hsame]
        exact hmatch'.invoked
      · rw [hsame]
        exact hmatch'.done
  · intro q' hq'
    have hne : q' ≠ q := by
      rintro rfl
      rw [hq] at hq'
      cases hq'
    exact (List.filter_cons_of_neg (by simpa using Ne.symm hne)).trans (h.fresh q' hq')

/-! ## The preemptible work items of a run -/

/-- What a step does to the preemptible work items: nothing, or a step of
theirs within the promises. -/
def Below (build : Build) (r : Ref) (c c' : WorkItem.State) : Prop :=
  c' = c ∨ ∃ b, WorkItem.Allowed build c b ∧ WorkItem.step build r c b = some c'

theorem Below.step {b : WorkItem.Action} (hs : WorkItem.step build r c b = some c')
    (hb : WorkItem.Allowed build c b) : Below build r c c' := .inr ⟨b, hb, hs⟩

theorem Below.inv (h : Below build r c c') (hi : WorkItem.Inv r c) : WorkItem.Inv r c' := by
  rcases h with rfl | ⟨b, hb, hs⟩
  · exact hi
  · exact WorkItem.inv_step hi hb hs

theorem withCxplat_eq_some {x : Option WorkItem.State} (h : s.withCxplat x = some s') :
    ∃ c, x = some c ∧ { s with cxplat := c } = s' :=
  Option.map_eq_some_iff.mp h

theorem inv_step {a : Action} (h : Inv r s) (hg : Allowed build s a)
    (hs : step build r s a = some s') : Inv r s' ∧ Below build r s.cxplat s'.cxplat := by
  simp only [step] at hs
  split at hs
  · cases hs
  cases a with
  | allocate p deviceObject blocks =>
    simp only [Option.ite_none_right_eq_some] at hs
    obtain ⟨-, hs⟩ := hs
    cases blocks with
    | none =>
      cases hs
      exact ⟨h, .inl rfl⟩
    | some blocks =>
      obtain ⟨item, cx⟩ := blocks
      obtain ⟨c, hc, rfl⟩ := Option.map_eq_some_iff.mp hs
      have hbelow : Below build r s.cxplat c := .step hc ⟨trivial, trivial⟩
      obtain ⟨hfree, hcx⟩ := items_allocate hc
      exact ⟨inv_allocate h hg hfree (hbelow.inv h.cxplat) hcx, hbelow⟩
  | store p item routine context =>
    simp only [Option.ite_none_right_eq_some] at hs
    obtain ⟨i, hi, rfl⟩ := Option.map_eq_some_iff.mp hs.2
    exact ⟨inv_store h hg hi, .inl rfl⟩
  | queue p =>
    obtain ⟨e, he, hs⟩ := Option.bind_eq_some_iff.mp hs
    obtain ⟨i, hi, hs⟩ := Option.bind_eq_some_iff.mp hs
    obtain ⟨c, hc, rfl⟩ := Option.map_eq_some_iff.mp hs
    have hbelow : Below build r s.cxplat c := .step hc hg
    obtain ⟨contents, call, hcontents, hcall, hitem, hstage, hitems, hcalls⟩ := call_queue hc
    exact ⟨inv_queue h (List.mem_of_find?_eq_some he) hi (hbelow.inv h.cxplat) hcontents hcall hitem
      hstage hitems hcalls, hbelow⟩
  | submit p =>
    obtain ⟨c, hc, rfl⟩ := withCxplat_eq_some hs
    have hbelow : Below build r s.cxplat c := .step hc ⟨trivial, trivial⟩
    obtain ⟨q, call, hm⟩ := moves_submit h.cxplat hc
    exact ⟨h.moves hm (hbelow.inv h.cxplat) nofun, hbelow⟩
  | start q =>
    obtain ⟨c, hc, rfl⟩ := withCxplat_eq_some hs
    have hbelow : Below build r s.cxplat c := .step hc ⟨trivial, trivial⟩
    obtain ⟨call, hm⟩ := moves_start hc
    exact ⟨h.moves hm (hbelow.inv h.cxplat) nofun, hbelow⟩
  | invoke q =>
    simp only [Option.ite_none_right_eq_some, Bool.and_eq_true, beq_iff_eq] at hs
    obtain ⟨⟨hrunning, hnil⟩, hs⟩ := hs
    obtain ⟨call, hq, hstage⟩ := (Option.any_eq_true _ _).mp hrunning
    obtain ⟨run, hrun, hs⟩ := Option.bind_eq_some_iff.mp hs
    obtain ⟨contents, hcontents, rfl⟩ := Option.map_eq_some_iff.mp hs
    exact ⟨inv_invoke h hq (beq_iff_eq.mp hstage) hnil hrun hcontents rfl, .inl rfl⟩
  | routineReturns q =>
    simp only [Option.ite_none_right_eq_some] at hs
    obtain ⟨⟨hne, -⟩, hs⟩ := hs
    obtain ⟨c, hc, rfl⟩ := withCxplat_eq_some hs
    have hbelow : Below build r s.cxplat c := .step hc ⟨trivial, trivial⟩
    obtain ⟨call, hm⟩ := moves_routineReturns hc
    exact ⟨h.moves hm (hbelow.inv h.cxplat) fun _ => hne, hbelow⟩
  | release q =>
    obtain ⟨c, hc, rfl⟩ := withCxplat_eq_some hs
    have hbelow : Below build r s.cxplat c := .step hc ⟨trivial, trivial⟩
    obtain ⟨call, hm, hstage⟩ := moves_release h.cxplat hc
    obtain ⟨req, -, hmatch⟩ := h.calls q call hm.found
    exact ⟨h.moves hm (hbelow.inv h.cxplat) fun _ => hmatch.done (by rw [hstage]; rfl), hbelow⟩
  | free p item =>
    simp only [Option.ite_none_right_eq_some] at hs
    obtain ⟨i, hi, hs⟩ := Option.bind_eq_some_iff.mp hs.2
    obtain ⟨c, hc, rfl⟩ := Option.map_eq_some_iff.mp hs
    have hbelow : Below build r s.cxplat c :=
      .step hc ⟨admissible_free h hg hi, trivial⟩
    exact ⟨inv_free h hg hi (hbelow.inv h.cxplat) (items_free hc), hbelow⟩
  | wait =>
    obtain ⟨c, hc, rfl⟩ := withCxplat_eq_some hs
    have hbelow : Below build r s.cxplat c := .step hc ⟨trivial, trivial⟩
    obtain ⟨hcalls, hitems⟩ := calls_wait (.inl rfl) hc
    exact ⟨h.of_calls (hbelow.inv h.cxplat) hcalls hitems, hbelow⟩
  | wakeUp =>
    obtain ⟨c, hc, rfl⟩ := withCxplat_eq_some hs
    have hbelow : Below build r s.cxplat c := .step hc ⟨trivial, trivial⟩
    obtain ⟨hcalls, hitems⟩ := calls_wait (.inr rfl) hc
    exact ⟨h.of_calls (hbelow.inv h.cxplat) hcalls hitems, hbelow⟩

/-! ## Every run -/

/-- What is done to the preemptible work items in a run. -/
theorem refines_of_inv {run : List Action} (h : Inv r s)
    (hg : Guarded (step build r) (Allowed build) s run)
    (hs : exec (step build r) s run = some s') :
    Inv r s' ∧ ∃ below, exec (WorkItem.step build r) s.cxplat below = some s'.cxplat ∧
      Guarded (WorkItem.step build r) (WorkItem.Allowed build) s.cxplat below := by
  induction run generalizing s with
  | nil =>
    cases hs
    exact ⟨h, [], rfl, trivial⟩
  | cons a run ih =>
    obtain ⟨s₁, h₁, h₂⟩ := exec_cons_eq_some.mp hs
    obtain ⟨hinv, hbelow⟩ := inv_step h hg.1 h₁
    obtain ⟨hinv', below, hrun, hguard⟩ := ih hinv (hg.2 s₁ h₁) h₂
    refine ⟨hinv', ?_⟩
    rcases hbelow with hsame | ⟨b, hb, hb'⟩
    · rw [hsame] at hrun hguard
      exact ⟨below, hrun, hguard⟩
    · refine ⟨b :: below, exec_cons_eq_some.mpr ⟨_, hb', hrun⟩, hb, fun c hc => ?_⟩
      obtain rfl := Option.some.inj (hb'.symm.trans hc)
      exact hguard

/--
For every interleaving of the Io calls that keeps the promises, what happens to the preemptible work
items is a run of these in which every step is allowed; so their theorems hold of it.
-/
theorem refines_workItem (build : Build) (r : Ref) (run : List Action) (s : State)
    (hg : Guarded (step build r) (Allowed build) (State.init r) run)
    (h : exec (step build r) (State.init r) run = some s) :
    ∃ below, exec (WorkItem.step build r) (WorkItem.State.init r) below = some s.cxplat ∧
      Guarded (WorkItem.step build r) (WorkItem.Allowed build) (WorkItem.State.init r) below :=
  (refines_of_inv (inv_init r) hg h).2

/-- What `IoQueueWorkItem` promises. -/
structure Delivered (s : State) : Prop where
  /-- Only what was asked for is called, and once. -/
  asked : ∀ q, s.invocationsOf q ≠ [] →
    ∃ req, s.requests q = some req ∧ s.invocationsOf q = [(q, some req.invocation)]
  /-- Once the wait has returned, all of it has been called. -/
  called : s.cxplat.wait = .returned → ∀ q call, s.cxplat.calls q = some call →
    call.accepted = true → s.invocationsOf q ≠ []

/-- Every routine is called once, with the device object of its item and the context it was queued
with. -/
theorem io_work_items_delivered (build : Build) (r : Ref) (run : List Action) (s : State)
    (hg : Guarded (step build r) (Allowed build) (State.init r) run)
    (h : exec (step build r) (State.init r) run = some s) : Delivered s := by
  have hi := (refines_of_inv (inv_init r) hg h).1
  constructor
  · intro q hne
    cases hq : s.cxplat.calls q with
    | none => exact absurd (hi.fresh q hq) hne
    | some call =>
      obtain ⟨req, hreq, hmatch⟩ := hi.calls q call hq
      exact ⟨req, hreq, (hmatch.invoked hne).1⟩
  · intro hret q call hq hacc
    obtain ⟨req, -, hmatch⟩ := hi.calls q call hq
    exact hmatch.done (by rw [hi.cxplat.finished hret hq hacc]; rfl)

/-! ## Concrete runs -/

/-- An item that is queued from two threads, one after the other, and freed by its routine. -/
def queuedTwice : List Action :=
  [.allocate (.thread 0) 5 (some (0x200, 0x100)), .store (.thread 0) 0x200 7 70,
   .queue (.thread 0), .submit (.thread 0), .start 0, .invoke 0,
   .store (.thread 1) 0x200 8 80, .queue (.thread 1), .submit (.thread 1), .wait,
   .routineReturns 0, .release 0, .start 1, .invoke 1, .free (.callback 1) 0x200,
   .routineReturns 1, .release 1, .wakeUp]

theorem io_work_items_delivered_queuedTwice :
    ∃ s, exec (step .debug 0x10) (State.init 0x10) queuedTwice = some s ∧
      s.invocations = [(1, some ⟨8, 5, 80⟩), (0, some ⟨7, 5, 70⟩)] ∧ Delivered s := by
  obtain ⟨s, hs, hinv⟩ :
      ∃ s, exec (step .debug 0x10) (State.init 0x10) queuedTwice = some s ∧
        s.invocations = [(1, some ⟨8, 5, 80⟩), (0, some ⟨7, 5, 70⟩)] :=
    exec_of_check (by decide +kernel)
  have hg : Guarded (step .debug 0x10) (Allowed .debug) (State.init 0x10) queuedTwice :=
    guarded_of_check (by decide +kernel)
  exact ⟨s, hs, hinv, io_work_items_delivered .debug 0x10 queuedTwice s hg hs⟩

/-- An item that is queued again too early: its first routine is never called. -/
def queuedTooEarly : List Action :=
  [.allocate (.thread 0) 5 (some (0x200, 0x100)), .store (.thread 0) 0x200 7 70,
   .queue (.thread 0), .submit (.thread 0), .store (.thread 1) 0x200 8 80, .queue (.thread 1),
   .submit (.thread 1), .start 0, .invoke 0, .start 1, .invoke 1]

example : ∃ s, exec (step .debug 0x10) (State.init 0x10) queuedTooEarly = some s ∧
    s.invocations = [(1, some ⟨8, 5, 80⟩), (0, some ⟨8, 5, 80⟩)] :=
  exec_of_check (by decide +kernel)

end Usersim.WorkItem.Io
