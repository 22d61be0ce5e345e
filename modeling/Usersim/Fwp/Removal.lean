import Mathlib.Data.List.Perm.Basic
import Usersim.Fwp.Flow

/-!
# Removals of flow contexts that race

`delete_flow_context` sets its callout when it finds the flow, and calls it in any case.
`test_remove_flow_context` looks for the flow first, in a critical section of its own, and another
removal may come in between; FwpsFlowRemoveContext0 does not look at all.

The callouts stay registered. A thread is in at most one removal; a call that flowDeleteFn makes
comes after the call of flowDeleteFn. `inserted` records the contexts that were stored, and
`delivered` the calls of flowDeleteFn and the threads that made them.

* `removals_deliver_once` — every context is delivered by one removal, and no null callout is
  called, in every interleaving in which each `delete_flow_context` finds its flow and its callout
-/

namespace Usersim.Fwp.Removal

open Lib

/-- Where a thread is in a removal. -/
inductive Phase where
  /-- In `test_remove_flow_context`, before `delete_flow_context`. -/
  | removingFlow (flowId : BitVec 64) (layerId : BitVec 16) (calloutId : Id)
  /-- In `delete_flow_context`, after its critical section. -/
  | notifying (layerId : BitVec 16) (calloutId : Id)
      (found : Option (Option Callout × Association))
deriving DecidableEq, Repr

structure State where
  /-- `fwpm_flow_contexts`. -/
  flows : Flows
  removals : List (Tid × Phase)
  /-- The newest first. -/
  inserted : List Association
  delivered : List (Tid × Delivery)
  /-- A null callout has been called. -/
  crashed : Bool
deriving DecidableEq, Repr

def State.init : State where
  flows := []
  removals := []
  inserted := []
  delivered := []
  crashed := false

inductive Action where
  /-- FwpsFlowAssociateContext0. -/
  | associate (t : Tid) (flowId : BitVec 64) (layerId : BitVec 16) (calloutId : Id)
      (flowContext : BitVec 64)
  /-- FwpsFlowRemoveContext0, up to the end of the critical section. -/
  | flowRemove (t : Tid) (flowId : BitVec 64) (layerId : BitVec 16) (calloutId : Id)
  /-- `test_remove_flow_context`, up to `delete_flow_context`. -/
  | testRemoveFlow (t : Tid) (version : Version) (flowId : BitVec 64)
      (managementCallout : Option (Id × ManagementCallout)) (callout : Option (Id × Callout))
  /-- The critical section of `delete_flow_context`, called by it. -/
  | removeFlow (t : Tid)
  /-- `callout->flowDeleteFn`. -/
  | notify (t : Tid)
deriving DecidableEq, Repr

variable (e : Engine)

def State.phase (s : State) (t : Tid) : Option Phase :=
  (s.removals.find? fun x => x.1 = t).map Prod.snd

/-- The association that is stored next. -/
def State.next (s : State) (flowId : BitVec 64) (layerId : BitVec 16) (calloutId : Id)
    (flowContext : BitVec 64) : Association where
  number := s.inserted.length
  flowId := flowId
  layerId := layerId
  calloutId := calloutId
  flowContext := flowContext

def associateFlowContext (s : State) (a : Association) : State :=
  { s with
    flows := insertNew s.flows a.flowId a
    inserted := if s.flows.any fun x => x.1 = a.flowId then s.inserted else a :: s.inserted }

def deleteFlowContext (s : State) (t : Tid) (flowId : BitVec 64) (layerId : BitVec 16)
    (calloutId : Id) : State :=
  { s with
    flows := eraseKey s.flows flowId
    removals := (t, .notifying layerId calloutId (e.findFlow s.flows flowId calloutId)) ::
      s.removals }

/-- The removal is over, or goes on to its next part. -/
def State.pop (s : State) (t : Tid) : State := { s with removals := eraseKey s.removals t }

def callStep (s : State) : Action → Option State
  | .associate _ flowId layerId calloutId flowContext =>
    some (associateFlowContext s (s.next flowId layerId calloutId flowContext))
  | .flowRemove t flowId layerId calloutId =>
    some (deleteFlowContext e s t flowId layerId calloutId)
  | .testRemoveFlow t version flowId managementCallout callout =>
    if e.findsCallout version managementCallout callout then
      if s.flows.any fun x => x.1 = flowId then
        some { s with removals :=
          (t, .removingFlow flowId (e.layerId version) (calloutIdOf callout)) :: s.removals }
      else some s
    else none
  | .removeFlow _ | .notify _ => none

def phaseStep (s : State) (phase : Phase) : Action → Option State
  | .removeFlow t =>
    match phase with
    | .removingFlow flowId layerId calloutId =>
      some (deleteFlowContext e (s.pop t) t flowId layerId calloutId)
    | .notifying .. => none
  | .notify t =>
    match phase with
    | .notifying layerId calloutId (some (some callout, a)) =>
      some { s.pop t with
        delivered := (t, { registration := callout.registration, layerId := layerId
                           calloutId := calloutId, flowContext := a.flowContext
                           association := a }) :: s.delivered }
    | .notifying .. => some { s.pop t with crashed := true }
    | .removingFlow .. => none
  | .associate .. | .flowRemove .. | .testRemoveFlow .. => none

def Action.thread : Action → Tid
  | .associate t .. | .flowRemove t .. | .testRemoveFlow t .. | .removeFlow t | .notify t => t

def step (s : State) (a : Action) : Option State :=
  if s.crashed then none
  else
    match s.phase a.thread with
    | some phase => phaseStep e s phase a
    | none => callStep e s a

/-! ## What is promised -/

/-- The context a removal has taken from the map. -/
def Phase.taken : Phase → Option Association
  | .notifying _ _ found => found.map Prod.snd
  | .removingFlow .. => none

def State.stored (s : State) : List Association := s.flows.map Prod.snd

def State.taken (s : State) : List Association := s.removals.filterMap fun x => x.2.taken

def State.deliveries (s : State) : List Association := s.delivered.map fun d => d.2.association

/-- No null callout has been called, every call of flowDeleteFn was for a context, and every context
is stored, or about to be delivered by one removal, or has been delivered by one. -/
structure DeliversOnce (s : State) : Prop where
  noNull : s.crashed = false
  delivered : ∀ a ∈ s.deliveries, a ∈ s.inserted
  once : ∀ a ∈ s.inserted, s.stored.count a + s.taken.count a + s.deliveries.count a = 1

/-- The flow has a context, and the callout is registered. -/
def Meets (s : State) (flowId : BitVec 64) (calloutId : Id) : Prop :=
  (∃ x ∈ s.flows, x.1 = flowId) ∧ (e.getFwpsCallout calloutId).isSome = true

/-- Every `delete_flow_context` finds its flow and its callout. -/
def Finds (s : State) : Action → Prop
  | .flowRemove _ flowId _ calloutId => Meets e s flowId calloutId
  | .removeFlow t => ∀ phase ∈ s.phase t,
    match phase with
    | .removingFlow flowId _ calloutId => Meets e s flowId calloutId
    | .notifying .. => True
  | .associate .. | .testRemoveFlow .. | .notify _ => True

variable {e} {s s' : State} {t : Tid} {a : Action} {phase : Phase}

/-! ## Maps -/

theorem perm_eraseKey {κ α : Type} [DecidableEq κ] {m : List (κ × α)} {x : κ × α}
    (hkeys : (m.map Prod.fst).Nodup) (hx : x ∈ m) : m.Perm (x :: eraseKey m x.1) := by
  have hnew : x ∉ eraseKey m x.1 := fun h => (mem_eraseKey.mp h).2 rfl
  have hnodup : m.Nodup := .of_map Prod.fst hkeys
  refine (List.perm_ext_iff_of_nodup hnodup ?_).mpr fun y => ?_
  · exact List.nodup_cons.mpr ⟨hnew, hnodup.sublist List.filter_sublist⟩
  · rw [List.mem_cons, mem_eraseKey]
    constructor
    · intro hy
      by_cases hk : y.1 = x.1
      · exact .inl (eq_of_key_eq hkeys hy hx hk)
      · exact .inr ⟨hy, hk⟩
    · rintro (rfl | ⟨hy, -⟩)
      · exact hx
      · exact hy

theorem phase_eq_some (h : s.phase t = some phase) : (t, phase) ∈ s.removals := by
  obtain ⟨x, hx, rfl⟩ := Option.map_eq_some_iff.mp h
  obtain ⟨hmem, rfl⟩ := find?_key_eq_some hx
  exact hmem

theorem phase_eq_none (h : s.phase t = none) : t ∉ s.removals.map Prod.fst := by
  have hnone := find?_key_eq_none.mp (Option.map_eq_none_iff.mp h)
  rintro hmem
  obtain ⟨x, hx, rfl⟩ := List.mem_map.mp hmem
  exact hnone x hx rfl

/-! ## The invariant -/

/-- Every removal that has been through its critical section holds a context and a callout. -/
def Phase.Ready : Phase → Prop
  | .notifying _ _ found => ∃ callout a, found = some (some callout, a)
  | .removingFlow .. => True

structure Inv (s : State) : Prop where
  keys : (s.flows.map Prod.fst).Nodup
  threads : (s.removals.map Prod.fst).Nodup
  ready : ∀ x ∈ s.removals, x.2.Ready
  numbers : ∀ a ∈ s.inserted, a.number < s.inserted.length
  nodup : s.inserted.Nodup
  conserved : s.inserted.Perm (s.stored ++ (s.taken ++ s.deliveries))
  noNull : s.crashed = false

theorem inv_init : Inv State.init := by
  constructor <;> simp [State.init, State.stored, State.taken, State.deliveries]

theorem Inv.deliversOnce (hi : Inv s) : DeliversOnce s where
  noNull := hi.noNull
  delivered := by
    intro a ha
    rw [hi.conserved.mem_iff]
    exact List.mem_append_right _ (List.mem_append_right _ ha)
  once := by
    intro a ha
    rw [Nat.add_assoc, ← List.count_append, ← List.count_append, ← hi.conserved.count_eq]
    exact List.count_eq_one_of_mem hi.nodup ha

/-- A flow without a context is associated. -/
theorem Inv.associate (hi : Inv s) (flowId : BitVec 64) (layerId : BitVec 16) (calloutId : Id)
    (flowContext : BitVec 64) :
    Inv (associateFlowContext s (s.next flowId layerId calloutId flowContext)) := by
  set x := s.next flowId layerId calloutId flowContext with hx
  by_cases hflow : ∃ y ∈ s.flows, y.1 = x.flowId
  · -- the context is dropped
    obtain ⟨y, hy, hkey⟩ := hflow
    have hany : (s.flows.any fun z => z.1 = x.flowId) = true :=
      List.any_eq_true.mpr ⟨y, hy, decide_eq_true hkey⟩
    have hsame : associateFlowContext s x = s := by
      unfold associateFlowContext
      rw [insertNew_of_mem hy hkey, if_pos hany]
    rw [hsame]
    exact hi
  · have hnew : ∀ y ∈ s.flows, y.1 ≠ x.flowId := fun y hy hkey => hflow ⟨y, hy, hkey⟩
    have hany : ¬ (s.flows.any fun z => z.1 = x.flowId) = true := by
      simpa using fun b hb => hnew (x.flowId, b) hb
    have hfresh : x ∉ s.inserted := new_of_number hi.numbers rfl
    have hadded : associateFlowContext s x =
        { s with flows := (x.flowId, x) :: s.flows, inserted := x :: s.inserted } := by
      unfold associateFlowContext
      rw [insertNew_of_new hnew, if_neg hany]
    rw [hadded]
    refine ⟨?_, hi.threads, hi.ready, ?_, ?_, hi.conserved.cons x, hi.noNull⟩
    · rw [← insertNew_of_new hnew]
      exact nodup_insertNew hi.keys
    · exact number_lt_cons hi.numbers rfl
    · exact List.nodup_cons.mpr ⟨hfresh, hi.nodup⟩

/-- A removal that has taken nothing leaves, or has yet to begin. -/
theorem Inv.pop (hi : Inv s) {phase : Phase} (hphase : (t, phase) ∈ s.removals)
    (htaken : phase.taken = none) : Inv (s.pop t) := by
  have hperm := perm_eraseKey hi.threads hphase
  have hsame : s.taken.Perm (s.pop t).taken := by
    have h := hperm.filterMap fun x => x.2.taken
    rw [List.filterMap_cons_none (f := fun x : Tid × Phase => x.2.taken) htaken] at h
    exact h
  refine ⟨hi.keys, nodup_eraseKey hi.threads, ?_, hi.numbers, hi.nodup, ?_, hi.noNull⟩
  · exact fun x hx => hi.ready x (mem_eraseKey.mp hx).1
  · exact hi.conserved.trans ((hsame.append_right _).append_left _)

theorem pop_threads (t : Tid) : t ∉ (s.pop t).removals.map Prod.fst := by
  intro h
  obtain ⟨x, hx, hkey⟩ := List.mem_map.mp h
  exact (mem_eraseKey.mp hx).2 hkey

/-- A removal takes the context of its flow. -/
theorem Inv.delete (hi : Inv s) (ht : t ∉ s.removals.map Prod.fst) {flowId : BitVec 64}
    {calloutId : Id} (hmeets : Meets e s flowId calloutId) (layerId : BitVec 16) :
    Inv (deleteFlowContext e s t flowId layerId calloutId) := by
  obtain ⟨⟨x, hx, rfl⟩, hcallout⟩ := hmeets
  obtain ⟨callout, hcallout⟩ := Option.isSome_iff_exists.mp hcallout
  have hfound : e.findFlow s.flows x.1 calloutId = some (some callout, x.2) := by
    rw [Engine.findFlow, find?_key_of_mem hi.keys hx, hcallout]
    rfl
  refine ⟨nodup_eraseKey hi.keys, List.nodup_cons.mpr ⟨ht, hi.threads⟩, ?_, hi.numbers, hi.nodup,
    ?_, hi.noNull⟩
  · intro y hy
    rcases List.mem_cons.mp hy with rfl | hy
    · exact ⟨callout, x.2, hfound⟩
    · exact hi.ready y hy
  · have hstored : s.stored.Perm (x.2 :: (eraseKey s.flows x.1).map Prod.snd) :=
      (perm_eraseKey hi.keys hx).map Prod.snd
    have htaken : (deleteFlowContext e s t x.1 layerId calloutId).taken = x.2 :: s.taken := by
      unfold deleteFlowContext State.taken
      rw [hfound]
      rfl
    rw [htaken]
    refine hi.conserved.trans ((hstored.append_right _).trans ?_)
    exact List.perm_middle.symm

/-- A removal delivers the context it has taken. -/
theorem Inv.notify (hi : Inv s) {layerId : BitVec 16} {calloutId : Id} {callout : Callout}
    {x : Association}
    (hphase : (t, Phase.notifying layerId calloutId (some (some callout, x))) ∈ s.removals)
    {d : Delivery} (hd : d.association = x) :
    Inv { s.pop t with delivered := (t, d) :: s.delivered } := by
  have htaken : s.taken.Perm (x :: (s.pop t).taken) := by
    have h := (perm_eraseKey hi.threads hphase).filterMap fun y : Tid × Phase => y.2.taken
    exact h
  refine ⟨hi.keys, nodup_eraseKey hi.threads, ?_, hi.numbers, hi.nodup, ?_, hi.noNull⟩
  · exact fun y hy => hi.ready y (mem_eraseKey.mp hy).1
  · refine hi.conserved.trans ((?_ : List.Perm _ _).append_left _)
    show (s.taken ++ s.deliveries).Perm ((s.pop t).taken ++ d.association :: s.deliveries)
    rw [hd]
    exact (htaken.append_right _).trans List.perm_middle.symm

/-! ## Steps -/

theorem inv_callStep (hi : Inv s) (hidle : s.phase a.thread = none) (hg : Finds e s a)
    (h : callStep e s a = some s') : Inv s' := by
  have ht := phase_eq_none hidle
  cases a with
  | associate t flowId layerId calloutId flowContext =>
    cases h
    exact hi.associate flowId layerId calloutId flowContext
  | flowRemove t flowId layerId calloutId =>
    cases h
    exact hi.delete ht hg layerId
  | testRemoveFlow t version flowId managementCallout callout =>
    simp only [callStep, Option.ite_none_right_eq_some] at h
    obtain ⟨-, h⟩ := h
    split at h <;> cases h
    · refine ⟨hi.keys, List.nodup_cons.mpr ⟨ht, hi.threads⟩, ?_, hi.numbers, hi.nodup,
        hi.conserved, hi.noNull⟩
      intro x hx
      rcases List.mem_cons.mp hx with rfl | hx
      · trivial
      · exact hi.ready x hx
    · exact hi
  | removeFlow t | notify t => cases h

theorem inv_phaseStep (hi : Inv s) (hphase : s.phase a.thread = some phase) (hg : Finds e s a)
    (h : phaseStep e s phase a = some s') : Inv s' := by
  have hmem := phase_eq_some hphase
  cases a with
  | associate | flowRemove | testRemoveFlow => cases h
  | removeFlow t =>
    cases phase with
    | removingFlow flowId layerId calloutId =>
      cases h
      have hmeets : Meets e s flowId calloutId := hg _ hphase
      exact (hi.pop hmem rfl).delete (pop_threads t) hmeets layerId
    | notifying => cases h
  | notify t =>
    cases phase with
    | removingFlow => cases h
    | notifying layerId calloutId found =>
      obtain ⟨callout, x, rfl⟩ := hi.ready _ hmem
      cases h
      exact hi.notify hmem rfl

theorem inv_step (hi : Inv s) (hg : Finds e s a) (h : step e s a = some s') : Inv s' := by
  unfold step at h
  split at h
  · cases h
  · split at h
    · rename_i phase hphase
      exact inv_phaseStep hi hphase hg h
    · rename_i hidle
      exact inv_callStep hi hidle hg h

/-- For every interleaving of associations and removals in which every `delete_flow_context` finds
its flow and its callout: no null callout is called, flowDeleteFn is called for contexts only, and
every context is delivered by one removal unless it is still stored. -/
theorem removals_deliver_once (e : Engine) (run : List Action) (s : State)
    (hg : Guarded (step e) (Finds e) State.init run)
    (h : exec (step e) State.init run = some s) : DeliversOnce s := by
  have hi : Inv s := exec_invariant_of_guard (fun _ _ _ hi hg h => inv_step hi hg h) inv_init hg h
  exact hi.deliversOnce

/-! ## The condition is exact -/

theorem meets_of_findFlow {flowId : BitVec 64} {calloutId : Id} {callout : Callout}
    {x : Association} (h : e.findFlow s.flows flowId calloutId = some (some callout, x)) :
    Meets e s flowId calloutId := by
  obtain ⟨flow, hflow, hfound⟩ := Option.map_eq_some_iff.mp h
  obtain ⟨hmem, hkey⟩ := find?_key_eq_some hflow
  obtain ⟨hcallout, -⟩ := Prod.mk.inj hfound
  exact ⟨⟨flow, hmem, hkey⟩, Option.isSome_of_eq_some hcallout⟩

/-- A removal that does not find its flow and its callout calls a null callout next. -/
theorem null_of_not_meets {flowId : BitVec 64} {calloutId : Id}
    (hcrashed : s.crashed = false) (hmeets : ¬ Meets e s flowId calloutId) (layerId : BitVec 16) :
    ∃ s', step e (deleteFlowContext e s t flowId layerId calloutId) (.notify t) = some s' ∧
      s'.crashed = true := by
  have hphase : (deleteFlowContext e s t flowId layerId calloutId).phase t =
      some (.notifying layerId calloutId (e.findFlow s.flows flowId calloutId)) := by
    simp [deleteFlowContext, State.phase]
  have hcrashed' : (deleteFlowContext e s t flowId layerId calloutId).crashed = false := hcrashed
  have hphase' : (deleteFlowContext e s t flowId layerId calloutId).phase
      (Action.notify t).thread = _ := hphase
  unfold step
  rw [hcrashed', if_neg (by decide), hphase']
  cases hfound : e.findFlow s.flows flowId calloutId with
  | none => exact ⟨_, rfl, rfl⟩
  | some found =>
    obtain ⟨callout, x⟩ := found
    cases callout with
    | none => exact ⟨_, rfl, rfl⟩
    | some callout => exact absurd (meets_of_findFlow hfound) hmeets

instance (s : State) (flowId : BitVec 64) (calloutId : Id) :
    Decidable (Meets e s flowId calloutId) :=
  inferInstanceAs (Decidable (_ ∧ _))

instance (s : State) : (a : Action) → Decidable (Finds e s a)
  | .flowRemove _ flowId _ calloutId => inferInstanceAs (Decidable (Meets e s flowId calloutId))
  | .removeFlow t =>
    match hphase : s.phase t with
    | some (.removingFlow flowId layerId calloutId) =>
      decidable_of_iff (Meets e s flowId calloutId) (by simp [Finds, hphase])
    | some (.notifying ..) => isTrue (by simp [Finds, hphase])
    | none => isTrue (by simp [Finds, hphase])
  | .associate .. | .testRemoveFlow .. | .notify _ => isTrue trivial

/-- Two threads remove a flow each at the same time, and one of them looks for a third flow. -/
def twoRemovals : List Action :=
  [.associate 0 7 52 1 70, .associate 1 8 52 1 80,
   .testRemoveFlow 0 .v4 7 (some (3, ⟨10, 4⟩)) (some (1, ⟨10, 0⟩)), .flowRemove 1 8 52 1,
   .removeFlow 0, .notify 1, .testRemoveFlow 1 .v4 9 (some (3, ⟨10, 4⟩)) (some (1, ⟨10, 0⟩)),
   .notify 0]

theorem removals_deliver_once_twoRemovals :
    ∃ s, exec (step Flow.twoCallouts) State.init twoRemovals = some s ∧
      s.delivered.map (fun d => (d.1, d.2.flowContext)) = [(0, 70), (1, 80)] ∧ DeliversOnce s := by
  have hg : Guarded (step Flow.twoCallouts) (Finds Flow.twoCallouts) State.init twoRemovals :=
    guarded_of_check (by decide +kernel)
  exact ⟨_, rfl, by decide +kernel, removals_deliver_once Flow.twoCallouts twoRemovals _ hg rfl⟩

/-- Two threads look for the flow before one of them removes it. -/
def sameFlow : List Action :=
  [.associate 0 7 52 1 70, .testRemoveFlow 0 .v4 7 (some (3, ⟨10, 4⟩)) (some (1, ⟨10, 0⟩)),
   .testRemoveFlow 1 .v4 7 (some (3, ⟨10, 4⟩)) (some (1, ⟨10, 0⟩)), .removeFlow 0, .notify 0,
   .removeFlow 1, .notify 1]

/-- The removal that lost the race calls a null callout, and so does the removal of a flow that has
never been associated. -/
theorem lost_race_calls_null :
    (∃ s, exec (step Flow.twoCallouts) State.init sameFlow = some s ∧ ¬ DeliversOnce s) ∧
      ∃ s, exec (step Flow.twoCallouts) State.init [.flowRemove 0 9 52 1, .notify 0] = some s ∧
        ¬ DeliversOnce s := by
  refine ⟨⟨_, rfl, fun h => ?_⟩, ⟨_, rfl, fun h => ?_⟩⟩
  · cases h.noNull
  · cases h.noNull

end Usersim.Fwp.Removal
