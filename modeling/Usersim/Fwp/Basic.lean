import Usersim.Basic
import Usersim.Lib.Run

/-!
# The filtering engine (`fwp_um.h`, `fwp_um.cpp`)

The engine keeps callouts, filters and flow contexts in unordered maps behind one shared mutex.
`test_callout`, `add_fwpm_filter`, `remove_fwpm_filter` and `delete_flow_context` look a callout up
under the lock, drop the lock, and then read the function pointer from the entry and call it.
`remove_fwpm_filter` gives its callback a pointer to the key in the entry besides.
`classify_test_packet` holds the shared lock all the time.

A critical section is one step; the exclusive ones need that no thread is inside
`classify_test_packet`. A loop over a map finds some matching entry, or none if there is none
(`finds`). A thread is in the calls on its stack, and a callback may make further calls. An entry is
known by the number of its registration: ids are 32 bits wide and come back. Calls that return
before they have touched the engine (fault injection, nothing found) leave no trace. `none` is an
action that is not enabled, or an access to a null callout.

`unregistered`, `dangling` and `lateStarts` are not part of the code: the registrations whose
FwpsCalloutUnregisterById0 has returned STATUS_SUCCESS, those whose entry was read after it had been
erased, and those whose callback was started after that return.
-/

namespace Usersim.Fwp

open Lib

/-- `next_id` and the keys of the maps. -/
abbrev Id := BitVec 32

abbrev Guid := BitVec 128

/-- The number of a FwpsCalloutRegister3. -/
abbrev Registration := Nat

/-- FWPS_CALLOUT3: its key; its functions are those of the registration. -/
structure Callout where
  calloutKey : Guid
  registration : Registration
deriving DecidableEq, Repr

/-- FWPM_CALLOUT0. -/
structure ManagementCallout where
  calloutKey : Guid
  applicableLayer : Guid
deriving DecidableEq, Repr

/-- FWPM_FILTER0. -/
structure Filter where
  layerKey : Guid
  subLayerKey : Guid
  calloutKey : Guid
  rawContext : BitVec 64
deriving DecidableEq, Repr

/-- A call of a function of the callout. -/
inductive Callback where
  | classify (context : BitVec 64) (flowHandle : BitVec 32)
  | notifyAddFilter (calloutKey : Guid) (context : BitVec 64)
  /-- Its key is a pointer into the entry of this registration. -/
  | notifyDeleteFilter (calloutKey : Registration) (context : BitVec 64)
  | flowDelete (layerId : BitVec 16) (calloutId : Id) (flowContext : BitVec 64)
deriving DecidableEq, Repr

/-- Where a thread is in a call; `locked` if it holds the shared lock. -/
inductive Frame where
  /-- It holds a pointer to the entry. -/
  | found (callback : Callback) (registration : Registration) (locked : Bool)
  /-- It has read the function pointer. -/
  | loaded (callback : Callback) (registration : Registration) (locked : Bool)
  | running (callback : Callback) (registration : Registration) (locked : Bool)
  /-- In `test_remove_flow_context`, before `delete_flow_context`. -/
  | removingFlow (flowId : BitVec 64) (layerId : BitVec 16) (calloutId : Id)
  /-- `remove_fwps_callout` has erased the entry. -/
  | unregistering (registration : Registration)
deriving DecidableEq, Repr

def Frame.locked : Frame → Bool
  | .found _ _ locked | .loaded _ _ locked | .running _ _ locked => locked
  | .removingFlow .. | .unregistering _ => false

/-! ## Maps -/

/-- `insert`: an entry that is there stays. -/
def insertNew {κ α : Type} [DecidableEq κ] (m : List (κ × α)) (k : κ) (a : α) : List (κ × α) :=
  if m.any fun x => x.1 = k then m else (k, a) :: m

def eraseKey {κ α : Type} [DecidableEq κ] (m : List (κ × α)) (k : κ) : List (κ × α) :=
  m.filter fun x => x.1 ≠ k

/-- What a loop over the map may find. -/
def finds {α : Type} [DecidableEq α] (m : List (Id × α)) (p : Id × α → Bool) :
    Option (Id × α) → Bool
  | some x => x ∈ m && p x
  | none => m.all fun x => !p x

structure State where
  /-- `next_id`. -/
  nextId : Id
  /-- `next_flow_id`. -/
  nextFlowId : BitVec 32
  fwpsCallouts : List (Id × Callout)
  fwpmCallouts : List (Id × ManagementCallout)
  fwpmFilters : List (Id × Filter)
  fwpmFlowContexts : List (BitVec 64 × BitVec 64)
  /-- The calls of all threads; of one thread the innermost comes first. -/
  frames : List (Tid × Frame)
  nextRegistration : Registration
  unregistered : List Registration
  dangling : List Registration
  lateStarts : List Registration
deriving DecidableEq, Repr

def State.init : State where
  nextId := 1
  nextFlowId := 1
  fwpsCallouts := []
  fwpmCallouts := []
  fwpmFilters := []
  fwpmFlowContexts := []
  frames := []
  nextRegistration := 0
  unregistered := []
  dangling := []
  lateStarts := []

inductive Action where
  /-- FwpsCalloutRegister3. -/
  | calloutRegister (t : Tid) (calloutKey : Guid)
  /-- FwpsCalloutUnregisterById0, up to the end of `remove_fwps_callout`. -/
  | calloutUnregister (t : Tid) (calloutId : Id)
  /-- It returns STATUS_SUCCESS. -/
  | unregisterReturns (t : Tid)
  /-- FwpmCalloutAdd0. -/
  | calloutAdd (t : Tid) (callout : ManagementCallout)
  /-- FwpmCalloutDeleteByKey0. -/
  | calloutDelete (t : Tid) (calloutKey : Guid) (callout : Option (Id × ManagementCallout))
  /-- FwpmSubLayerAdd0: it takes an id; nobody looks a sub-layer up. -/
  | subLayerAdd (t : Tid)
  /-- FwpmFilterAdd0. -/
  | filterAdd (t : Tid) (filter : Filter) (callout : Option (Id × Callout))
  /-- FwpmFilterDeleteById0. -/
  | filterDelete (t : Tid) (id : Id) (filter : Option (Id × Filter))
      (callout : Option (Id × Callout))
  /-- FwpsFlowAssociateContext0. -/
  | flowAssociate (t : Tid) (flowId flowContext : BitVec 64)
  /-- FwpsFlowRemoveContext0. -/
  | flowRemove (t : Tid) (flowId : BitVec 64) (layerId : BitVec 16) (calloutId : Id)
      (callout : Option (Id × Callout))
  /-- `test_remove_flow_context`, up to `delete_flow_context`. -/
  | testRemoveFlow (t : Tid) (flowId : BitVec 64) (layerId : BitVec 16) (layer : Guid)
      (managementCallout : Option (Id × ManagementCallout)) (callout : Option (Id × Callout))
  /-- `delete_flow_context`, called by it. -/
  | removeFlow (t : Tid) (callout : Option (Id × Callout))
  | testCallout (t : Tid) (layer subLayer : Guid) (filter : Option (Id × Filter))
      (callout : Option (Id × Callout))
  | classifyTestPacket (t : Tid) (layer : Guid)
      (managementCallout : Option (Id × ManagementCallout)) (callout : Option (Id × Callout))
      (filter : Option (Id × Filter))
  /-- `classify_test_packet` cannot allocate the packet. -/
  | abandon (t : Tid)
  /-- The function pointer is read from the entry. -/
  | load (t : Tid)
  /-- The callback is started. -/
  | start (t : Tid)
  /-- The callback reads the key that it has a pointer to. -/
  | readKey (t : Tid)
  /-- The callback returns, and with it the call. -/
  | finish (t : Tid)
deriving DecidableEq, Repr

/-! ## Threads -/

/-- The innermost call of a thread. -/
def State.top (s : State) (t : Tid) : Option Frame :=
  (s.frames.find? fun x => x.1 = t).map Prod.snd

/-- A thread may call the engine if it is not inside of it, or inside of a callback. -/
def State.mayCall (s : State) (t : Tid) : Bool :=
  match s.top t with
  | none | some (.running ..) => true
  | _ => false

/-- The exclusive lock is free. -/
def State.lockFree (s : State) : Bool :=
  s.frames.all fun x => !x.2.locked

def State.push (s : State) (t : Tid) (f : Frame) : State :=
  { s with frames := (t, f) :: s.frames }

def State.pop (s : State) (t : Tid) : State :=
  { s with frames := s.frames.eraseP fun x => x.1 = t }

/-- The entry of a registration is in the map. -/
def State.registered (s : State) (r : Registration) : Bool :=
  s.fwpsCallouts.any fun x => x.2.registration = r

/-! ## Critical sections -/

def registerFwpsCallout (s : State) (calloutKey : Guid) : State :=
  { s with
    nextId := s.nextId + 1
    fwpsCallouts := insertNew s.fwpsCallouts s.nextId ⟨calloutKey, s.nextRegistration⟩
    nextRegistration := s.nextRegistration + 1 }

def removeFwpsCallout (s : State) (id : Id) : State :=
  { s with fwpsCallouts := eraseKey s.fwpsCallouts id }

/-- A null callout is called: access violation. -/
def addFwpmFilter (s : State) (t : Tid) (filter : Filter) (callout : Option (Id × Callout)) :
    Option State :=
  if finds s.fwpsCallouts (fun x => x.2.calloutKey = filter.calloutKey) callout then
    callout.map fun c =>
      { s with
        nextId := s.nextId + 1
        fwpmFilters := insertNew s.fwpmFilters s.nextId filter }.push t
          (.found (.notifyAddFilter filter.calloutKey filter.rawContext) c.2.registration false)
  else none

/-- Without the filter there is no callout either. -/
def removeFwpmFilter (s : State) (t : Tid) (id : Id) (filter : Option (Id × Filter))
    (callout : Option (Id × Callout)) : Option State :=
  match filter with
  | none => none
  | some f =>
    if finds s.fwpmFilters (fun x => x.1 = id) filter &&
        finds s.fwpsCallouts (fun x => x.2.calloutKey = f.2.calloutKey) callout then
      callout.map fun c =>
        { s with fwpmFilters := eraseKey s.fwpmFilters id }.push t
          (.found (.notifyDeleteFilter c.2.registration f.2.rawContext) c.2.registration false)
    else none

/-- Without the flow there is no callout either. -/
def deleteFlowContext (s : State) (t : Tid) (flowId : BitVec 64) (layerId : BitVec 16)
    (calloutId : Id) (callout : Option (Id × Callout)) : Option State :=
  match s.fwpmFlowContexts.find? fun x => x.1 = flowId with
  | none => none
  | some flow =>
    if finds s.fwpsCallouts (fun x => x.1 = calloutId) callout then
      callout.map fun c =>
        { s with fwpmFlowContexts := eraseKey s.fwpmFlowContexts flowId }.push t
          (.found (.flowDelete layerId calloutId flow.2) c.2.registration false)
    else none

/-- The id of the callout of a layer, or 0. -/
def testRemoveFlowContext (s : State) (t : Tid) (flowId : BitVec 64) (layerId : BitVec 16)
    (layer : Guid) (managementCallout : Option (Id × ManagementCallout))
    (callout : Option (Id × Callout)) : Option State :=
  if finds s.fwpmCallouts (fun x => x.2.applicableLayer = layer) managementCallout then
    let found := match managementCallout with
      | some c => finds s.fwpsCallouts (fun x => x.2.calloutKey = c.2.calloutKey) callout
      | none => callout.isNone
    let calloutId := match callout with
      | some c => c.1
      | none => 0
    if found && s.fwpmFlowContexts.any fun x => x.1 = flowId then
      some (s.push t (.removingFlow flowId layerId calloutId))
    else none
  else none

def testCallout (s : State) (t : Tid) (layer subLayer : Guid) (filter : Option (Id × Filter))
    (callout : Option (Id × Callout)) : Option State :=
  match filter, callout with
  | some f, some c =>
    if finds s.fwpmFilters (fun x => x.2.layerKey = layer && x.2.subLayerKey = subLayer &&
          x.2.rawContext != 0) filter &&
        finds s.fwpsCallouts (fun x => x.2.calloutKey = f.2.calloutKey) callout then
      some ({ s with nextFlowId := s.nextFlowId + 1 }.push t
        (.found (.classify f.2.rawContext (s.nextFlowId + 1)) c.2.registration false))
    else none
  | _, _ => none

/-- The filter need not be one of the callout. -/
def classifyTestPacket (s : State) (t : Tid) (layer : Guid)
    (managementCallout : Option (Id × ManagementCallout)) (callout : Option (Id × Callout))
    (filter : Option (Id × Filter)) : Option State :=
  match managementCallout, callout, filter with
  | some m, some c, some f =>
    if finds s.fwpmCallouts (fun x => x.2.applicableLayer = layer) managementCallout &&
        finds s.fwpsCallouts (fun x => x.2.calloutKey = m.2.calloutKey) callout &&
        finds s.fwpmFilters (fun x => x.2.layerKey = layer && x.2.rawContext != 0) filter then
      some (s.push t (.found (.classify f.2.rawContext 0) c.2.registration true))
    else none
  | _, _, _ => none

/-! ## Steps -/

/-- The steps outside of the critical sections. -/
def frameStep (s : State) (t : Tid) (f : Frame) : Action → Option State
  | .unregisterReturns _ =>
    match f with
    | .unregistering r => some { s.pop t with unregistered := r :: s.unregistered }
    | _ => none
  | .removeFlow _ callout =>
    match f with
    | .removingFlow flowId layerId calloutId =>
      if s.lockFree then deleteFlowContext (s.pop t) t flowId layerId calloutId callout else none
    | _ => none
  | .abandon _ =>
    match f with
    | .found _ _ true => some (s.pop t)
    | _ => none
  | .load _ =>
    match f with
    | .found callback r locked =>
      some { (s.pop t).push t (.loaded callback r locked) with
        dangling := if s.registered r then s.dangling else r :: s.dangling }
    | _ => none
  | .start _ =>
    match f with
    | .loaded callback r locked =>
      some { (s.pop t).push t (.running callback r locked) with
        lateStarts := if r ∈ s.unregistered then r :: s.lateStarts else s.lateStarts }
    | _ => none
  | .readKey _ =>
    match f with
    | .running (.notifyDeleteFilter key _) _ _ =>
      some { s with dangling := if s.registered key then s.dangling else key :: s.dangling }
    | _ => none
  | .finish _ =>
    match f with
    | .running .. => some (s.pop t)
    | _ => none
  | _ => none

/-- A call of the engine, up to the end of its first critical section. -/
def callStep (s : State) : Action → Option State
  | .calloutRegister _ calloutKey =>
    if s.lockFree then some (registerFwpsCallout s calloutKey) else none
  | .calloutUnregister t calloutId =>
    if s.lockFree then
      match s.fwpsCallouts.find? fun x => x.1 = calloutId with
      | some c => some ((removeFwpsCallout s calloutId).push t (.unregistering c.2.registration))
      | none => some s
    else none
  | .calloutAdd _ callout =>
    if s.lockFree then
      some { s with
        nextId := s.nextId + 1
        fwpmCallouts := insertNew s.fwpmCallouts s.nextId callout }
    else none
  | .calloutDelete _ calloutKey callout =>
    if s.lockFree && finds s.fwpmCallouts (fun x => x.2.calloutKey = calloutKey) callout then
      match callout with
      | some c => some { s with fwpmCallouts := eraseKey s.fwpmCallouts c.1 }
      | none => some s
    else none
  | .subLayerAdd _ => if s.lockFree then some { s with nextId := s.nextId + 1 } else none
  | .filterAdd t filter callout => if s.lockFree then addFwpmFilter s t filter callout else none
  | .filterDelete t id filter callout =>
    if s.lockFree then removeFwpmFilter s t id filter callout else none
  | .flowAssociate _ flowId flowContext =>
    if s.lockFree then
      some { s with fwpmFlowContexts := insertNew s.fwpmFlowContexts flowId flowContext }
    else none
  | .flowRemove t flowId layerId calloutId callout =>
    if s.lockFree then deleteFlowContext s t flowId layerId calloutId callout else none
  | .testRemoveFlow t flowId layerId layer managementCallout callout =>
    testRemoveFlowContext s t flowId layerId layer managementCallout callout
  | .testCallout t layer subLayer filter callout => testCallout s t layer subLayer filter callout
  | .classifyTestPacket t layer managementCallout callout filter =>
    classifyTestPacket s t layer managementCallout callout filter
  | .unregisterReturns _ | .removeFlow .. | .abandon _ | .load _ | .start _ | .readKey _
  | .finish _ => none

def Action.thread : Action → Tid
  | .calloutRegister t _ | .calloutUnregister t _ | .unregisterReturns t | .calloutAdd t _
  | .calloutDelete t _ _ | .subLayerAdd t | .filterAdd t _ _ | .filterDelete t _ _ _
  | .flowAssociate t _ _ | .flowRemove t _ _ _ _ | .testRemoveFlow t _ _ _ _ _ | .removeFlow t _
  | .testCallout t _ _ _ _ | .classifyTestPacket t _ _ _ _ | .abandon t | .load t | .start t
  | .readKey t | .finish t => t

/-- An action is a step of the innermost call, or a new call. -/
def step (s : State) (a : Action) : Option State :=
  match a with
  | .unregisterReturns t | .removeFlow t _ | .abandon t | .load t | .start t | .readKey t
  | .finish t =>
    match s.top t with
    | some f => frameStep s t f a
    | none => none
  | _ => if s.mayCall a.thread then callStep s a else none

end Usersim.Fwp
