import Mathlib.Data.List.Nodup
import Usersim.Fwp.Unregister

/-!
# Flow contexts

FwpsFlowAssociateContext0 is given a flow, a layer, a callout and a context, and stores the context
under the flow alone; an association with a flow that has a context already is dropped. The layer
and the callout come back as arguments of FwpsFlowRemoveContext0, or are worked out from the layer
by `test_remove_flow_context`, and it is that callout whose flowDeleteFn is called.

Calls come one after the other here, and the callouts stay as they are. A map entry carries the
association that made it, of which the code knows the context only; `associated` and `delivered`
record the associations that returned STATUS_SUCCESS and the calls of flowDeleteFn.

* `contexts_delivered_once` — every association is stored, or has been delivered once to its own
  callout, exactly in the runs that keep to one association per flow at a time and remove it with
  its own layer and callout
-/

namespace Usersim.Fwp

open Lib

/-- `usersim_fwp_sock_ops_v4_remove_flow_context` and its sibling. -/
inductive Version where
  | v4
  | v6
deriving DecidableEq, Repr

/-- What does not change while flows come and go: the callouts, and the id and key of the layer
FLOW_ESTABLISHED of each version. -/
structure Engine where
  fwpsCallouts : List (Id × Callout)
  fwpmCallouts : List (Id × ManagementCallout)
  layerId : Version → BitVec 16
  layer : Version → Guid

/-- A FwpsFlowAssociateContext0. -/
structure Association where
  number : Nat
  flowId : BitVec 64
  layerId : BitVec 16
  calloutId : Id
  flowContext : BitVec 64
deriving DecidableEq, Repr

/-- `fwpm_flow_contexts`. -/
abbrev Flows := List (BitVec 64 × Association)

/-- `get_fwps_callout` with an id. -/
def Engine.getFwpsCallout (e : Engine) (calloutId : Id) : Option Callout :=
  (e.fwpsCallouts.find? fun x => x.1 = calloutId).map Prod.snd

/-- What `delete_flow_context` comes out of its critical section with: nothing without the flow, and
otherwise its context and the callout, which may be null. -/
def Engine.findFlow (e : Engine) (flows : Flows) (flowId : BitVec 64) (calloutId : Id) :
    Option (Option Callout × Association) :=
  (flows.find? fun x => x.1 = flowId).map fun flow => (e.getFwpsCallout calloutId, flow.2)

/-- What the loops of `test_remove_flow_context` may find: a callout of the layer in the one map,
and the callout with its key in the other. -/
def Engine.findsCallout (e : Engine) (version : Version)
    (managementCallout : Option (Id × ManagementCallout))
    (callout : Option (Id × Callout)) : Bool :=
  finds e.fwpmCallouts (fun x => x.2.applicableLayer = e.layer version) managementCallout &&
    match managementCallout with
    | some c => finds e.fwpsCallouts (fun x => x.2.calloutKey = c.2.calloutKey) callout
    | none => callout.isNone

/-- The id it passes on, which is 0 if there is no callout. -/
def calloutIdOf : Option (Id × Callout) → Id
  | some c => c.1
  | none => 0

/-- A call of flowDeleteFn, and the association the context came from. -/
structure Delivery where
  registration : Registration
  layerId : BitVec 16
  calloutId : Id
  flowContext : BitVec 64
  association : Association
deriving DecidableEq, Repr

/-- It is the callout of the association that is called, with the arguments of the association. -/
structure Delivery.Own (e : Engine) (d : Delivery) : Prop where
  callout : (e.getFwpsCallout d.association.calloutId).map Callout.registration =
    some d.registration
  layerId : d.layerId = d.association.layerId
  calloutId : d.calloutId = d.association.calloutId
  flowContext : d.flowContext = d.association.flowContext

/-! ## Maps -/

section Maps

variable {κ α : Type} [DecidableEq κ] {m : List (κ × α)} {k : κ} {a : α} {x y : κ × α}

theorem insertNew_of_new (h : ∀ x ∈ m, x.1 ≠ k) : insertNew m k a = (k, a) :: m := by
  refine if_neg ?_
  simpa using fun b hb => h (k, b) hb

theorem insertNew_of_mem (hx : x ∈ m) (hk : x.1 = k) : insertNew m k a = m := by
  refine if_pos ?_
  simp only [List.any_eq_true, decide_eq_true_eq]
  exact ⟨x, hx, hk⟩

theorem nodup_insertNew (h : (m.map Prod.fst).Nodup) : ((insertNew m k a).map Prod.fst).Nodup := by
  unfold insertNew
  split
  · exact h
  · rename_i hnew
    refine List.nodup_cons.mpr ⟨?_, h⟩
    simpa using hnew

theorem nodup_eraseKey (h : (m.map Prod.fst).Nodup) : ((eraseKey m k).map Prod.fst).Nodup :=
  h.sublist (List.filter_sublist.map Prod.fst)

omit [DecidableEq κ] in
/-- A key has one entry. -/
theorem eq_of_key_eq (h : (m.map Prod.fst).Nodup) (hx : x ∈ m) (hy : y ∈ m) (hk : x.1 = y.1) :
    x = y :=
  List.inj_on_of_nodup_map h hx hy hk

theorem find?_key_eq_some (h : m.find? (fun x => x.1 = k) = some x) : x ∈ m ∧ x.1 = k := by
  refine ⟨List.mem_of_find?_eq_some h, ?_⟩
  simpa using List.find?_some h

theorem find?_key_of_mem (h : (m.map Prod.fst).Nodup) (hx : x ∈ m) :
    m.find? (fun y => y.1 = x.1) = some x := by
  cases hfind : m.find? (fun y => y.1 = x.1) with
  | none =>
    rw [List.find?_eq_none] at hfind
    exact absurd (decide_eq_true rfl) (hfind x hx)
  | some y =>
    obtain ⟨hy, hk⟩ := find?_key_eq_some hfind
    rw [eq_of_key_eq h hy hx hk]

theorem find?_key_eq_none : m.find? (fun x => x.1 = k) = none ↔ ∀ x ∈ m, x.1 ≠ k := by
  simp [List.find?_eq_none]

end Maps

/-! ## Numbered entries -/

section Numbers

variable {α : Type} {number : α → Nat} {l : List α} {x : α}

theorem new_of_number (h : ∀ y ∈ l, number y < l.length) (hx : number x = l.length) : x ∉ l := by
  intro hmem
  have hlt := h x hmem
  omega

/-- The next entry has the next number. -/
theorem number_lt_cons (h : ∀ y ∈ l, number y < l.length) (hx : number x = l.length) :
    ∀ y ∈ x :: l, number y < (x :: l).length := by
  intro y hy
  rw [List.length_cons]
  rcases List.mem_cons.mp hy with rfl | hy
  · omega
  · have hlt := h y hy
    omega

end Numbers

/-! ## Calls one after the other -/

namespace Flow

structure State where
  /-- `fwpm_flow_contexts`. -/
  flows : Flows
  /-- The newest first. -/
  associated : List Association
  delivered : List Delivery
  /-- A null callout has been called. -/
  crashed : Bool
deriving DecidableEq, Repr

def State.init : State where
  flows := []
  associated := []
  delivered := []
  crashed := false

inductive Action where
  /-- FwpsFlowAssociateContext0. -/
  | associate (flowId : BitVec 64) (layerId : BitVec 16) (calloutId : Id) (flowContext : BitVec 64)
  /-- FwpsFlowRemoveContext0. -/
  | remove (flowId : BitVec 64) (layerId : BitVec 16) (calloutId : Id)
  /-- `usersim_fwp_sock_ops_v4_remove_flow_context` or its sibling. -/
  | sockOpsRemove (version : Version) (flowId : BitVec 64)
      (managementCallout : Option (Id × ManagementCallout)) (callout : Option (Id × Callout))
deriving DecidableEq, Repr

variable (e : Engine)

/-- The association that is made next. -/
def State.next (s : State) (flowId : BitVec 64) (layerId : BitVec 16) (calloutId : Id)
    (flowContext : BitVec 64) : Association where
  number := s.associated.length
  flowId := flowId
  layerId := layerId
  calloutId := calloutId
  flowContext := flowContext

def associateFlowContext (s : State) (a : Association) : State :=
  { s with flows := insertNew s.flows a.flowId a, associated := a :: s.associated }

def deleteFlowContext (s : State) (flowId : BitVec 64) (layerId : BitVec 16) (calloutId : Id) :
    State :=
  let s' := { s with flows := eraseKey s.flows flowId }
  match e.findFlow s.flows flowId calloutId with
  | some (some callout, a) =>
    { s' with
      delivered := { registration := callout.registration, layerId := layerId
                     calloutId := calloutId, flowContext := a.flowContext
                     association := a } :: s.delivered }
  | some (none, _) | none => { s' with crashed := true }

def step (s : State) (a : Action) : Option State :=
  if s.crashed then none
  else
    match a with
    | .associate flowId layerId calloutId flowContext =>
      some (associateFlowContext s (s.next flowId layerId calloutId flowContext))
    | .remove flowId layerId calloutId => some (deleteFlowContext e s flowId layerId calloutId)
    | .sockOpsRemove version flowId managementCallout callout =>
      if e.findsCallout version managementCallout callout then
        if s.flows.any fun x => x.1 = flowId then
          some (deleteFlowContext e s flowId (e.layerId version) (calloutIdOf callout))
        else some s
      else none

/-! ## What is promised -/

/-- The flow, layer and callout of a removal that is carried out. -/
def removal (s : State) : Action → Option (BitVec 64 × BitVec 16 × Id)
  | .associate .. => none
  | .remove flowId layerId calloutId => some (flowId, layerId, calloutId)
  | .sockOpsRemove version flowId managementCallout callout =>
    if e.findsCallout version managementCallout callout && s.flows.any fun x => x.1 = flowId then
      some (flowId, e.layerId version, calloutIdOf callout)
    else none

/-- The callers associate flows with callouts that are registered. -/
def Contract (_ : State) : Action → Prop
  | .associate _ _ calloutId _ => (e.getFwpsCallout calloutId).isSome
  | .remove .. | .sockOpsRemove .. => True

instance (s : State) : (a : Action) → Decidable (Contract e s a)
  | .associate _ _ calloutId _ =>
    inferInstanceAs (Decidable ((e.getFwpsCallout calloutId).isSome = true))
  | .remove .. | .sockOpsRemove .. => isTrue trivial

def State.Stored (s : State) (a : Association) : Prop := (a.flowId, a) ∈ s.flows

/-- The calls of flowDeleteFn with the context of the association. -/
def State.deliveries (s : State) (a : Association) : List Delivery :=
  s.delivered.filter fun d => d.association = a

/-- The association is stored, or has been delivered once, to its own callout. -/
def State.Kept (s : State) (a : Association) : Prop :=
  (s.Stored a ∧ s.deliveries a = []) ∨ (¬ s.Stored a ∧ ∃ d, s.deliveries a = [d] ∧ d.Own e)

/-- All associations are kept, and a removal leaves those stored that it does not name. -/
def Delivers (s : State) (a : Action) : Prop :=
  ∀ s', step e s a = some s' → (∀ x ∈ s'.associated, s'.Kept e x) ∧
    ∀ x, s.Stored x → removal e s a ≠ some (x.flowId, x.layerId, x.calloutId) → s'.Stored x

/-- A context of the flow was associated with the layer and the callout. -/
def State.Names (s : State) (target : BitVec 64 × BitVec 16 × Id) : Prop :=
  ∀ x ∈ s.flows, x.1 = target.1 → x.2.layerId = target.2.1 ∧ x.2.calloutId = target.2.2

/-- A flow is associated when it has no context, and the removal of a context names the layer and
the callout it was associated with. -/
def OnePerFlow (s : State) (a : Action) : Prop :=
  s.crashed = false →
    match a with
    | .associate flowId .. => ∀ x ∈ s.flows, x.1 ≠ flowId
    | .remove .. | .sockOpsRemove .. => ∀ target ∈ removal e s a, s.Names target

instance (s : State) (target : BitVec 64 × BitVec 16 × Id) : Decidable (s.Names target) :=
  inferInstanceAs (Decidable (∀ x ∈ s.flows, _ → _))

/-- Only the target of the removal is looked at, of all there are. -/
instance (s : State) (a : Action) : Decidable (∀ target ∈ removal e s a, s.Names target) :=
  Option.decidableForallMem (removal e s a)

instance (s : State) : (a : Action) → Decidable (OnePerFlow e s a)
  | .associate flowId .. =>
    inferInstanceAs (Decidable (s.crashed = false → ∀ x ∈ s.flows, x.1 ≠ flowId))
  | .remove flowId layerId calloutId => inferInstanceAs (Decidable (s.crashed = false →
      ∀ target ∈ removal e s (.remove flowId layerId calloutId), s.Names target))
  | .sockOpsRemove version flowId managementCallout callout =>
    inferInstanceAs (Decidable (s.crashed = false →
      ∀ target ∈ removal e s (.sockOpsRemove version flowId managementCallout callout),
        s.Names target))

variable {e} {s s' : State} {a : Action}

/-! ## Steps -/

/-- A step makes an association, carries out a removal, or finds nothing to remove. -/
theorem step_cases (h : step e s a = some s') :
    s.crashed = false ∧
      ((∃ flowId layerId calloutId flowContext,
          a = .associate flowId layerId calloutId flowContext ∧
            s' = associateFlowContext s (s.next flowId layerId calloutId flowContext)) ∨
        (∃ target, removal e s a = some target ∧
          s' = deleteFlowContext e s target.1 target.2.1 target.2.2) ∨
        removal e s a = none ∧ s' = s) := by
  unfold step at h
  split at h
  · cases h
  · rename_i hcrashed
    refine ⟨by simpa using hcrashed, ?_⟩
    split at h
    · rename_i flowId layerId calloutId flowContext
      cases h
      exact .inl ⟨flowId, layerId, calloutId, flowContext, rfl, rfl⟩
    · rename_i flowId layerId calloutId
      cases h
      exact .inr (.inl ⟨(flowId, layerId, calloutId), rfl, rfl⟩)
    · rename_i version flowId managementCallout callout
      split at h
      · rename_i hfinds
        split at h
        · rename_i hflow
          cases h
          refine .inr (.inl ⟨(flowId, e.layerId version, calloutIdOf callout), ?_, rfl⟩)
          rw [removal, hfinds, hflow]
          rfl
        · rename_i hflow
          cases h
          refine .inr (.inr ⟨?_, rfl⟩)
          rw [removal, hfinds, Bool.eq_false_iff.mpr hflow]
          rfl
      · cases h

theorem step_of_removal (hcrashed : s.crashed = false) {target : BitVec 64 × BitVec 16 × Id}
    (h : removal e s a = some target) :
    step e s a = some (deleteFlowContext e s target.1 target.2.1 target.2.2) := by
  cases a with
  | associate => cases h
  | remove flowId layerId calloutId =>
    cases h
    simp [step, hcrashed]
  | sockOpsRemove version flowId managementCallout callout =>
    simp only [removal, Option.ite_none_right_eq_some, Option.some.injEq, Bool.and_eq_true] at h
    obtain ⟨⟨hfinds, hflow⟩, rfl⟩ := h
    simp only [step, hcrashed, hfinds, hflow, if_true, Bool.false_eq_true, if_false]

theorem deleteFlowContext_flows (flowId : BitVec 64) (layerId : BitVec 16) (calloutId : Id) :
    (deleteFlowContext e s flowId layerId calloutId).flows = eraseKey s.flows flowId := by
  unfold deleteFlowContext
  split <;> rfl

theorem deleteFlowContext_associated (flowId : BitVec 64) (layerId : BitVec 16) (calloutId : Id) :
    (deleteFlowContext e s flowId layerId calloutId).associated = s.associated := by
  unfold deleteFlowContext
  split <;> rfl

/-- The removal of an absent flow calls a null callout. -/
theorem deleteFlowContext_of_absent {flowId : BitVec 64} (h : ∀ x ∈ s.flows, x.1 ≠ flowId)
    (layerId : BitVec 16) (calloutId : Id) :
    deleteFlowContext e s flowId layerId calloutId = { s with crashed := true } := by
  have herase : eraseKey s.flows flowId = s.flows := by
    unfold eraseKey
    exact List.filter_eq_self.mpr fun x hx => decide_eq_true (h x hx)
  unfold deleteFlowContext Engine.findFlow
  rw [find?_key_eq_none.mpr h, herase]
  rfl

theorem deleteFlowContext_of_stored {x : BitVec 64 × Association}
    (hkeys : (s.flows.map Prod.fst).Nodup) (hx : x ∈ s.flows) (layerId : BitVec 16)
    {calloutId : Id} {callout : Callout} (hcallout : e.getFwpsCallout calloutId = some callout) :
    deleteFlowContext e s x.1 layerId calloutId =
      { s with
        flows := eraseKey s.flows x.1
        delivered := { registration := callout.registration, layerId := layerId
                       calloutId := calloutId, flowContext := x.2.flowContext
                       association := x.2 } :: s.delivered } := by
  unfold deleteFlowContext Engine.findFlow
  rw [find?_key_of_mem hkeys hx, hcallout]
  rfl

theorem deleteFlowContext_of_null {x : BitVec 64 × Association}
    (hkeys : (s.flows.map Prod.fst).Nodup) (hx : x ∈ s.flows) (layerId : BitVec 16)
    {calloutId : Id} (hcallout : e.getFwpsCallout calloutId = none) :
    deleteFlowContext e s x.1 layerId calloutId =
      { s with flows := eraseKey s.flows x.1, crashed := true } := by
  unfold deleteFlowContext Engine.findFlow
  rw [find?_key_of_mem hkeys hx, hcallout]
  rfl

/-! ## The invariant -/

structure Inv (e : Engine) (s : State) : Prop where
  keys : (s.flows.map Prod.fst).Nodup
  stored : ∀ x ∈ s.flows, x.2.flowId = x.1 ∧ x.2 ∈ s.associated
  numbers : ∀ x ∈ s.associated, x.number < s.associated.length
  registered : ∀ x ∈ s.associated, (e.getFwpsCallout x.calloutId).isSome
  delivered : ∀ d ∈ s.delivered, d.association ∈ s.associated
  kept : ∀ x ∈ s.associated, s.Kept e x

theorem inv_init : Inv e State.init := by
  constructor <;> simp [State.init]

/-- An association is made for the first time. -/
theorem Inv.next_new (hi : Inv e s) (flowId : BitVec 64) (layerId : BitVec 16) (calloutId : Id)
    (flowContext : BitVec 64) : s.next flowId layerId calloutId flowContext ∉ s.associated :=
  new_of_number hi.numbers rfl

theorem Inv.deliveries_new (hi : Inv e s) {x : Association} (hx : x ∉ s.associated) :
    s.deliveries x = [] := by
  refine List.filter_eq_nil_iff.mpr ?_
  intro d hd hdx
  exact hx (of_decide_eq_true hdx ▸ hi.delivered d hd)

theorem State.Kept.congr {x : Association} (h : s.Kept e x) (hstored : s'.Stored x ↔ s.Stored x)
    (hdeliveries : s'.deliveries x = s.deliveries x) : s'.Kept e x := by
  unfold State.Kept
  rw [hstored, hdeliveries]
  exact h

theorem deliveries_cons {x : Association} {d : Delivery}
    (h : s'.delivered = d :: s.delivered) (hd : d.association = x) :
    s'.deliveries x = d :: s.deliveries x := by
  unfold State.deliveries
  rw [h]
  exact List.filter_cons_of_pos (decide_eq_true hd)

/-- The entry of a flow goes. -/
theorem stored_erase {flowId : BitVec 64} (h : s'.flows = eraseKey s.flows flowId)
    (x : Association) : s'.Stored x ↔ s.Stored x ∧ x.flowId ≠ flowId := by
  unfold State.Stored
  rw [h, mem_eraseKey]

/-- Only one association with a flow is stored. -/
theorem Inv.eq_of_stored (hi : Inv e s) {x : BitVec 64 × Association} {y : Association}
    (hx : x ∈ s.flows) (hy : s.Stored y) (hflow : y.flowId = x.1) : y = x.2 :=
  congrArg Prod.snd (eq_of_key_eq hi.keys hy hx hflow)

/-- What is stored has not been delivered. -/
theorem Inv.undelivered (hi : Inv e s) {x : BitVec 64 × Association} (hx : x ∈ s.flows) :
    s.deliveries x.2 = [] := by
  obtain ⟨hkey, hmem⟩ := hi.stored x hx
  rcases hi.kept x.2 hmem with ⟨-, h⟩ | ⟨h, -⟩
  · exact h
  · refine absurd ?_ h
    show (x.2.flowId, x.2) ∈ s.flows
    rw [hkey]
    exact hx

/-- A flow without a context is associated. -/
theorem Inv.associate (hi : Inv e s) {flowId : BitVec 64} (hnew : ∀ x ∈ s.flows, x.1 ≠ flowId)
    {calloutId : Id} (hcallout : (e.getFwpsCallout calloutId).isSome) (layerId : BitVec 16)
    (flowContext : BitVec 64) :
    Inv e (associateFlowContext s (s.next flowId layerId calloutId flowContext)) := by
  set x := s.next flowId layerId calloutId flowContext with hx
  have hx' : x ∉ s.associated := hi.next_new flowId layerId calloutId flowContext
  have hflows : insertNew s.flows x.flowId x = (flowId, x) :: s.flows := insertNew_of_new hnew
  have hstored : ∀ y, (associateFlowContext s x).Stored y ↔ y = x ∨ s.Stored y := by
    intro y
    show (y.flowId, y) ∈ insertNew s.flows x.flowId x ↔ _
    rw [hflows, List.mem_cons]
    refine or_congr_left ?_
    constructor
    · exact fun h => congrArg Prod.snd h
    · rintro rfl
      rfl
  refine ⟨?_, ?_, ?_, ?_, ?_, ?_⟩
  · exact nodup_insertNew hi.keys
  · intro y hy
    replace hy : y ∈ insertNew s.flows x.flowId x := hy
    rw [hflows] at hy
    rcases List.mem_cons.mp hy with rfl | hy
    · exact ⟨rfl, List.mem_cons_self⟩
    · exact ⟨(hi.stored y hy).1, List.mem_cons_of_mem _ (hi.stored y hy).2⟩
  · exact number_lt_cons hi.numbers rfl
  · intro y hy
    rcases List.mem_cons.mp hy with rfl | hy
    · exact hcallout
    · exact hi.registered y hy
  · exact fun d hd => List.mem_cons_of_mem _ (hi.delivered d hd)
  · intro y hy
    rcases List.mem_cons.mp hy with rfl | hy
    · exact .inl ⟨(hstored x).mpr (.inl rfl), hi.deliveries_new hx'⟩
    · refine (hi.kept y hy).congr ?_ rfl
      rw [hstored]
      refine or_iff_right ?_
      rintro rfl
      exact hx' hy

/-- The association that a flow is stored for is delivered. -/
theorem Inv.deliver (hi : Inv e s) {x : BitVec 64 × Association} (hx : x ∈ s.flows) {d : Delivery}
    (hd : d.association = x.2) (hown : d.Own e) :
    Inv e { s with flows := eraseKey s.flows x.1, delivered := d :: s.delivered } := by
  obtain ⟨hkey, hmem⟩ := hi.stored x hx
  have hstored : ∀ y,
      State.Stored { s with flows := eraseKey s.flows x.1, delivered := d :: s.delivered } y ↔
        s.Stored y ∧ y.flowId ≠ x.1 :=
    stored_erase rfl
  refine ⟨nodup_eraseKey hi.keys, ?_, hi.numbers, hi.registered, ?_, ?_⟩
  · exact fun y hy => hi.stored y (mem_eraseKey.mp hy).1
  · intro d' hd'
    rcases List.mem_cons.mp hd' with rfl | hd'
    · exact hd ▸ hmem
    · exact hi.delivered d' hd'
  · intro y hy
    by_cases hyx : y = x.2
    · subst hyx
      refine .inr ⟨fun h => ((hstored x.2).mp h).2 hkey, d, ?_, hown⟩
      rw [deliveries_cons (s := s) rfl hd, hi.undelivered hx]
    · refine (hi.kept y hy).congr ?_ ?_
      · rw [hstored]
        refine and_iff_left_of_imp fun h hflow => ?_
        exact hyx (hi.eq_of_stored hx h hflow)
      · show List.filter _ (d :: s.delivered) = _
        refine List.filter_cons_of_neg ?_
        rw [hd]
        simpa using Ne.symm hyx

theorem Inv.crash (hi : Inv e s) : Inv e { s with crashed := true } :=
  ⟨hi.keys, hi.stored, hi.numbers, hi.registered, hi.delivered, hi.kept⟩

/-- The removal of a context with its own layer and callout. -/
theorem Inv.own (hi : Inv e s) {x : BitVec 64 × Association} (hx : x ∈ s.flows) :
    ∃ callout, e.getFwpsCallout x.2.calloutId = some callout ∧
      Delivery.Own e
        { registration := callout.registration, layerId := x.2.layerId
          calloutId := x.2.calloutId, flowContext := x.2.flowContext, association := x.2 } := by
  obtain ⟨callout, hcallout⟩ := Option.isSome_iff_exists.mp (hi.registered x.2 (hi.stored x hx).2)
  refine ⟨callout, hcallout, ⟨?_, rfl, rfl, rfl⟩⟩
  rw [hcallout]
  rfl

/-- A removal either meets no context or one that it names. -/
theorem OnePerFlow.of_removal (hg : OnePerFlow e s a) (hcrashed : s.crashed = false)
    {target : BitVec 64 × BitVec 16 × Id} (h : removal e s a = some target) : s.Names target := by
  cases a with
  | associate => cases h
  | remove | sockOpsRemove => exact hg hcrashed target h

theorem inv_step (hi : Inv e s) (hc : Contract e s a) (hg : OnePerFlow e s a)
    (h : step e s a = some s') : Inv e s' := by
  obtain ⟨hcrashed, ⟨flowId, layerId, calloutId, flowContext, rfl, rfl⟩ |
    ⟨target, htarget, rfl⟩ | ⟨-, rfl⟩⟩ := step_cases h
  · exact hi.associate (hg hcrashed) hc layerId flowContext
  · have hnames := hg.of_removal hcrashed htarget
    by_cases hflow : ∃ x ∈ s.flows, x.1 = target.1
    · obtain ⟨x, hx, hkey⟩ := hflow
      obtain ⟨hlayer, hid⟩ := hnames x hx hkey
      obtain ⟨callout, hcallout, hown⟩ := hi.own hx
      rw [← hkey, ← hlayer, ← hid, deleteFlowContext_of_stored hi.keys hx _ hcallout]
      exact hi.deliver hx rfl hown
    · rw [deleteFlowContext_of_absent fun x hx hkey => hflow ⟨x, hx, hkey⟩]
      exact hi.crash
  · exact hi

/-! ## The condition is exact -/

theorem delivers_of_onePerFlow (hi : Inv e s) (hc : Contract e s a) (hg : OnePerFlow e s a) :
    Delivers e s a := by
  intro s' h
  refine ⟨(inv_step hi hc hg h).kept, ?_⟩
  intro x hx hother
  obtain ⟨hcrashed, ⟨flowId, layerId, calloutId, flowContext, rfl, rfl⟩ |
    ⟨target, htarget, rfl⟩ | ⟨-, rfl⟩⟩ := step_cases h
  · exact mem_insertNew_of_mem hx
  · have hflow : x.flowId ≠ target.1 := by
      intro hflow
      obtain ⟨hlayer, hid⟩ := hg.of_removal hcrashed htarget _ hx hflow
      refine hother (htarget.trans ?_)
      rw [hflow, hlayer, hid]
    exact (stored_erase (deleteFlowContext_flows ..) x).mpr ⟨hx, hflow⟩
  · exact hx

/-- A context that is not lost by its removal is one that the removal names. -/
theorem named_of_kept (hi : Inv e s) {x : BitVec 64 × Association} (hx : x ∈ s.flows)
    {layerId : BitVec 16} {calloutId : Id}
    (h : (deleteFlowContext e s x.1 layerId calloutId).Kept e x.2) :
    x.2.layerId = layerId ∧ x.2.calloutId = calloutId := by
  obtain ⟨hkey, -⟩ := hi.stored x hx
  have hnone := hi.undelivered hx
  rcases h with ⟨h, -⟩ | ⟨-, d, hd, hown⟩
  · exact absurd hkey ((stored_erase (deleteFlowContext_flows (e := e) (s := s) ..) x.2).mp h).2
  · cases hcallout : e.getFwpsCallout calloutId with
    | none =>
      -- nobody is called
      rw [deleteFlowContext_of_null hi.keys hx layerId hcallout] at hd
      replace hd : s.deliveries x.2 = [d] := hd
      rw [hnone] at hd
      cases hd
    | some callout =>
      rw [deleteFlowContext_of_stored hi.keys hx layerId hcallout] at hd
      have hcons := hd.symm.trans (deliveries_cons (s := s) rfl rfl)
      rw [hnone] at hcons
      cases hcons
      exact ⟨hown.layerId.symm, hown.calloutId.symm⟩

theorem Delivers.of_removal (hd : Delivers e s a) (hi : Inv e s) (hcrashed : s.crashed = false) :
    ∀ target ∈ removal e s a, s.Names target := by
  intro target htarget x hx hkey
  have hkept := (hd _ (step_of_removal hcrashed htarget)).1 x.2
    ((deleteFlowContext_associated ..).symm ▸ (hi.stored x hx).2)
  rw [← hkey] at hkept
  exact named_of_kept hi hx hkept

theorem onePerFlow_of_delivers (hi : Inv e s) (hd : Delivers e s a) : OnePerFlow e s a := by
  intro hcrashed
  cases a with
  | associate flowId layerId calloutId flowContext =>
    intro x hx hkey
    set y := s.next flowId layerId calloutId flowContext with hy
    have hnew : y ∉ s.associated := hi.next_new flowId layerId calloutId flowContext
    have hstep : step e s (.associate flowId layerId calloutId flowContext) =
        some (associateFlowContext s y) := by
      simp [step, hcrashed, ← hy]
    have hflows : insertNew s.flows y.flowId y = s.flows := insertNew_of_mem hx hkey
    -- the new association is nowhere
    rcases (hd _ hstep).1 y List.mem_cons_self with ⟨hstored, -⟩ | ⟨-, d, hdelivered, -⟩
    · replace hstored : (y.flowId, y) ∈ insertNew s.flows y.flowId y := hstored
      rw [hflows] at hstored
      exact hnew (hi.stored _ hstored).2
    · replace hdelivered : s.deliveries y = [d] := hdelivered
      rw [hi.deliveries_new hnew] at hdelivered
      cases hdelivered
  | remove | sockOpsRemove => exact hd.of_removal hi hcrashed

/--
For every run of associations and removals with callouts that are registered: every association that
returned STATUS_SUCCESS is stored or has been delivered once, to the callout it was made with and
with its own arguments, and no removal takes another association along, if and only if flows are
associated when they have no context and contexts are removed under their own layer and callout.
-/
theorem contexts_delivered_once (e : Engine) (run : List Action)
    (hc : Guarded (step e) (Contract e) State.init run) :
    Guarded (step e) (Delivers e) State.init run ↔
      Guarded (step e) (OnePerFlow e) State.init run :=
  guarded_iff_of_contract (P := Inv e)
    (fun _ _ hi hc => ⟨onePerFlow_of_delivers hi, delivers_of_onePerFlow hi hc⟩)
    (fun _ _ _ hi hc hg h => inv_step hi hc hg h) inv_init hc

/-- Two callouts, the first of them one of the layer FLOW_ESTABLISHED of IPv4. -/
def twoCallouts : Engine where
  fwpsCallouts := [(2, ⟨20, 1⟩), (1, ⟨10, 0⟩)]
  fwpmCallouts := [(3, ⟨10, 4⟩)]
  layerId := fun
    | .v4 => 52
    | .v6 => 54
  layer := fun
    | .v4 => 4
    | .v6 => 6

/-- Each callout has a flow; the one is removed by the callout, and the other when it ends. -/
def twoFlows : List Action :=
  [.associate 7 52 1 70, .associate 8 54 2 80, .remove 8 54 2,
   .sockOpsRemove .v4 7 (some (3, ⟨10, 4⟩)) (some (1, ⟨10, 0⟩)), .associate 7 54 2 71]

theorem contexts_delivered_once_twoFlows :
    Guarded (step twoCallouts) (Delivers twoCallouts) State.init twoFlows ∧
      ((exec (step twoCallouts) State.init twoFlows).map fun s => s.delivered.map
        Delivery.flowContext) = some [70, 80] := by
  have hc : Guarded (step twoCallouts) (Contract twoCallouts) State.init twoFlows :=
    guarded_of_check (by decide +kernel)
  have hg : Guarded (step twoCallouts) (OnePerFlow twoCallouts) State.init twoFlows :=
    guarded_of_check (by decide +kernel)
  exact ⟨(contexts_delivered_once twoCallouts twoFlows hc).mpr hg, by decide +kernel⟩

/-- Both callouts associate a context with one flow. -/
def oneFlow : List Action := [.associate 7 52 1 70, .associate 7 52 2 71]

/-- The second context is dropped. -/
theorem second_context_dropped :
    ∃ s, exec (step twoCallouts) State.init oneFlow = some s ∧
      Guarded (step twoCallouts) (Contract twoCallouts) State.init oneFlow ∧
      ⟨1, 7, 52, 2, 71⟩ ∈ s.associated ∧ s.delivered = [] ∧
      s.flows = [(7, ⟨0, 7, 52, 1, 70⟩)] ∧
      ¬ Guarded (step twoCallouts) (Delivers twoCallouts) State.init oneFlow := by
  refine ⟨_, rfl, guarded_of_check (by decide +kernel), by decide, rfl, rfl, ?_⟩
  rintro ⟨-, hsecond⟩
  obtain ⟨hdelivers, -⟩ := hsecond _ rfl
  rcases (hdelivers _ rfl).1 ⟨1, 7, 52, 2, 71⟩ (by decide) with ⟨hstored, -⟩ | ⟨-, d, hd, -⟩
  · revert hstored
    show ¬ _ ∈ [_]
    decide
  · cases hd

end Flow

end Usersim.Fwp
