import Usersim.Fwp.Flow

/-!
# Filters and their notifications

FwpmFilterAdd0 and FwpmFilterDeleteById0 tell the callout of the filter, which they look up by its
key, and by which nothing says that it is the same callout both times. The deletion looks the
callout up when it finds the filter, computes its result from a second look-up, and in any case
calls the callout before it returns.

Calls come one after the other here. `none` is an action that is not enabled; the run ends with the
call of a null callout. An entry of `fwpm_filters` carries the number of its FwpmFilterAdd0 and the
registration that was told; `added` records the filters, `witnessed` those that were deleted while
that registration was there, and `notifications` the calls of notifyFn.

* `filters_balanced` — all calls do what is promised exactly in the runs whose ids come back only
  when they are free and whose deletions meet a filter and a callout, the one that was told if it is
  there
-/

namespace Usersim.Fwp.Filters

open Lib

/-- An entry of `fwpm_filters`. -/
structure Entry where
  filter : Filter
  number : Nat
  addedBy : Registration
deriving DecidableEq, Repr

inductive NotifyType where
  | addFilter
  | deleteFilter
deriving DecidableEq, Repr

/-- A call of notifyFn, and the filter it is about. -/
structure Notification where
  type : NotifyType
  registration : Registration
  calloutKey : Guid
  context : BitVec 64
  number : Nat
deriving DecidableEq, Repr

structure State where
  /-- `next_id`. -/
  nextId : Id
  fwpsCallouts : List (Id × Callout)
  fwpmFilters : List (Id × Entry)
  nextRegistration : Registration
  /-- The newest first. -/
  added : List Entry
  witnessed : List Entry
  notifications : List Notification
deriving DecidableEq, Repr

def State.init : State where
  nextId := 1
  fwpsCallouts := []
  fwpmFilters := []
  nextRegistration := 0
  added := []
  witnessed := []
  notifications := []

inductive Status where
  | success
  | invalidParameter
deriving DecidableEq, Repr

/-- What a call comes back with. -/
inductive Reply where
  | id (id : Id)
  | status (status : Status)
  /-- It does not come back: it has called a null callout. -/
  | nullCallout
deriving DecidableEq, Repr

inductive Action where
  /-- FwpsCalloutRegister3. -/
  | calloutRegister (calloutKey : Guid)
  /-- FwpsCalloutUnregisterById0. -/
  | calloutUnregister (calloutId : Id)
  /-- FwpmFilterAdd0, and the callout that `get_fwps_callout` finds. -/
  | filterAdd (filter : Filter) (callout : Option (Id × Callout))
  /-- FwpmFilterDeleteById0, and the callout that `get_fwps_callout` finds. -/
  | filterDelete (id : BitVec 64) (callout : Option (Id × Callout))
deriving DecidableEq, Repr

/-! ## Calls -/

/-- The callout with the key that was found, or none if there is none. -/
def State.findsCallout (s : State) (calloutKey : Guid) (callout : Option (Id × Callout)) : Bool :=
  finds s.fwpsCallouts (fun x => x.2.calloutKey = calloutKey) callout

/-- The entry of a filter. Keys are as wide as the ids that are looked up. -/
def State.current (s : State) (id : BitVec 64) : Option (Id × Entry) :=
  s.fwpmFilters.find? fun x => x.1.setWidth 64 = id

/-- The registration is there. -/
def State.registered (s : State) (r : Registration) : Bool :=
  s.fwpsCallouts.any fun x => x.2.registration = r

def registerFwpsCallout (s : State) (calloutKey : Guid) : State × Reply :=
  ({ s with
      nextId := s.nextId + 1
      fwpsCallouts := insertNew s.fwpsCallouts s.nextId ⟨calloutKey, s.nextRegistration⟩
      nextRegistration := s.nextRegistration + 1 }, .id s.nextId)

def removeFwpsCallout (s : State) (calloutId : Id) : State × Reply :=
  ({ s with fwpsCallouts := eraseKey s.fwpsCallouts calloutId },
    .status (if s.fwpsCallouts.any fun x => x.1 = calloutId then .success else .invalidParameter))

def addFwpmFilter (s : State) (filter : Filter) (callout : Option (Id × Callout)) : State × Reply :=
  match callout with
  -- the process is gone, whatever has been inserted
  | none => (s, .nullCallout)
  | some c =>
    let x : Entry := { filter := filter, number := s.added.length, addedBy := c.2.registration }
    ({ s with
        nextId := s.nextId + 1
        fwpmFilters := insertNew s.fwpmFilters s.nextId x
        added := x :: s.added
        notifications := { type := .addFilter, registration := c.2.registration
                           calloutKey := filter.calloutKey, context := filter.rawContext
                           number := x.number } :: s.notifications }, .id s.nextId)

/-- The filter is found, and its callout may be. -/
def removeFwpmFilter (s : State) (id : BitVec 64) (x : Entry) (callout : Option (Id × Callout)) :
    State × Reply :=
  match callout with
  | none => (s, .nullCallout)
  | some c =>
    ({ s with
        fwpmFilters := s.fwpmFilters.filter fun x => x.1.setWidth 64 ≠ id
        witnessed := if s.registered x.addedBy then x :: s.witnessed else s.witnessed
        notifications := { type := .deleteFilter, registration := c.2.registration
                           calloutKey := c.2.calloutKey, context := x.filter.rawContext
                           number := x.number } :: s.notifications }, .status .success)

def call (s : State) : Action → Option (State × Reply)
  | .calloutRegister calloutKey => some (registerFwpsCallout s calloutKey)
  | .calloutUnregister calloutId => some (removeFwpsCallout s calloutId)
  | .filterAdd filter callout =>
    if s.findsCallout filter.calloutKey callout then some (addFwpmFilter s filter callout) else none
  | .filterDelete id callout =>
    match s.current id with
    -- the callout has not been looked up either, and is called before the result is returned
    | none => some (s, .nullCallout)
    | some x =>
      if s.findsCallout x.2.filter.calloutKey callout then some (removeFwpmFilter s id x.2 callout)
      else none

def step (s : State) (a : Action) : Option State :=
  match call s a with
  | some (_, .nullCallout) | none => none
  | some (s', _) => some s'

/-! ## What is promised -/

/-- A filter is added while a callout with its key is registered. -/
def Contract (s : State) : Action → Prop
  | .filterAdd filter _ => ∃ x ∈ s.fwpsCallouts, x.2.calloutKey = filter.calloutKey
  | .calloutRegister _ | .calloutUnregister _ | .filterDelete .. => True

def addNotification (x : Entry) : Notification where
  type := .addFilter
  registration := x.addedBy
  calloutKey := x.filter.calloutKey
  context := x.filter.rawContext
  number := x.number

/-- The callout that was told of the filter is told of its deletion. -/
def deleteNotification (x : Entry) : Notification :=
  { addNotification x with type := .deleteFilter }

/-- What a deletion does with the filter it is called for, if there is one. -/
def DeleteSpec (s : State) (s' : State) (reply : Reply) : Option (Id × Entry) → Prop
  | none => reply = .status .invalidParameter ∧ s' = s
  | some x => reply = .status .success ∧
    (∀ y, y ∈ s'.fwpmFilters ↔ y ∈ s.fwpmFilters ∧ y ≠ x) ∧
    s'.fwpsCallouts = s.fwpsCallouts ∧
    (s.registered x.2.addedBy = true →
      s'.notifications = deleteNotification x.2 :: s.notifications)

/-- What a call does. -/
def CallSpec (s : State) (a : Action) (s' : State) (reply : Reply) : Prop :=
  match a with
  | .calloutRegister calloutKey =>
    ∃ id, reply = .id id ∧ (id, ⟨calloutKey, s.nextRegistration⟩) ∈ s'.fwpsCallouts
  | .calloutUnregister _ => ∃ status, reply = .status status
  | .filterAdd filter _ =>
    ∃ id x, reply = .id id ∧ x.filter = filter ∧ s'.fwpmFilters = (id, x) :: s.fwpmFilters ∧
      (∃ c ∈ s.fwpsCallouts, c.2.calloutKey = filter.calloutKey ∧ c.2.registration = x.addedBy) ∧
      s'.notifications = addNotification x :: s.notifications
  | .filterDelete id _ => DeleteSpec s s' reply (s.current id)

def State.notificationsOf (s : State) (type : NotifyType) (x : Entry) : List Notification :=
  s.notifications.filter fun n => n.type = type && n.number = x.number

/-- The filter has been told of once, and its deletion once if it has been deleted. -/
structure Balanced (s : State) (x : Entry) : Prop where
  add : s.notificationsOf .addFilter x = [addNotification x]
  current : (∃ id, (id, x) ∈ s.fwpmFilters) → s.notificationsOf .deleteFilter x = []
  deleted : (¬ ∃ id, (id, x) ∈ s.fwpmFilters) →
    ∃ n, s.notificationsOf .deleteFilter x = [n] ∧ n.context = x.filter.rawContext ∧
      (x ∈ s.witnessed → n = deleteNotification x)

/-- The call does what it should, and the notifications of all filters are balanced after it. -/
def Promised (s : State) (a : Action) : Prop :=
  ∀ s' reply, call s a = some (s', reply) →
    CallSpec s a s' reply ∧ ∀ x ∈ s'.added, Balanced s' x

/-- An id that is taken is free. A deletion meets a filter, and a callout with its key, the one that
was told of the filter if it is there. -/
def Clear (s : State) : Action → Prop
  | .calloutRegister _ => ∀ x ∈ s.fwpsCallouts, x.1 ≠ s.nextId
  | .calloutUnregister _ => True
  | .filterAdd filter callout =>
    s.findsCallout filter.calloutKey callout = true → ∀ x ∈ s.fwpmFilters, x.1 ≠ s.nextId
  | .filterDelete id callout =>
    ∃ x, s.current id = some x ∧ (s.findsCallout x.2.filter.calloutKey callout = true →
      ∃ c, callout = some c ∧ (s.registered x.2.addedBy = true → c.2.registration = x.2.addedBy))

variable {s s' : State} {a : Action} {reply : Reply}

/-! ## The engine -/

theorem setWidth_inj {i j : Id} (h : i.setWidth 64 = j.setWidth 64) : i = j := by
  have hn := congrArg BitVec.toNat h
  rw [BitVec.toNat_setWidth_of_le (by omega), BitVec.toNat_setWidth_of_le (by omega)] at hn
  exact BitVec.eq_of_toNat_eq hn

theorem current_eq_some {id : BitVec 64} {x : Id × Entry} (h : s.current id = some x) :
    x ∈ s.fwpmFilters ∧ x.1.setWidth 64 = id := by
  refine ⟨List.mem_of_find?_eq_some h, ?_⟩
  simpa using List.find?_some h

theorem call_filterDelete_of_none {id : BitVec 64} (h : s.current id = none)
    (callout : Option (Id × Callout)) :
    call s (.filterDelete id callout) = some (s, .nullCallout) := by
  simp only [call, h]

theorem call_filterDelete_of_some {id : BitVec 64} {x : Id × Entry} (h : s.current id = some x)
    (callout : Option (Id × Callout)) :
    call s (.filterDelete id callout) =
      if s.findsCallout x.2.filter.calloutKey callout then
        some (removeFwpmFilter s id x.2 callout)
      else none := by
  simp only [call, h]

/-- What the code stores of the filters. -/
def filtersOf (fwpmFilters : List (Id × Entry)) : List (Id × Filter) :=
  fwpmFilters.map fun x => (x.1, x.2.filter)

theorem filtersOf_insertNew (m : List (Id × Entry)) (id : Id) (x : Entry) :
    insertNew (filtersOf m) id x.filter = filtersOf (insertNew m id x) := by
  unfold insertNew filtersOf
  rw [List.any_map]
  show (if (m.any fun x => x.1 = id) = true then _ else _) = _
  split <;> rfl

theorem filtersOf_erase (m : List (Id × Entry)) (id : Id) :
    eraseKey (filtersOf m) id = filtersOf (m.filter fun x => x.1.setWidth 64 ≠ id.setWidth 64) := by
  unfold eraseKey filtersOf
  rw [List.filter_map]
  refine congrArg _ (List.filter_congr fun x _ => ?_)
  show decide (x.1 ≠ id) = _
  rw [decide_eq_decide]
  exact not_congr ⟨fun h => h ▸ rfl, setWidth_inj⟩

/-- The state of the engine. -/
structure Same (s : State) (b : Fwp.State) : Prop where
  nextId : b.nextId = s.nextId
  fwpsCallouts : b.fwpsCallouts = s.fwpsCallouts
  fwpmFilters : b.fwpmFilters = filtersOf s.fwpmFilters

theorem Same.finds {b : Fwp.State} (hb : Same s b) {calloutKey : Guid}
    {callout : Option (Id × Callout)} (h : s.findsCallout calloutKey callout = true) :
    Fwp.finds b.fwpsCallouts (fun x => x.2.calloutKey = calloutKey) callout = true := by
  rw [hb.fwpsCallouts]
  exact h

/-- An addition that comes back is one of the engine. -/
theorem Same.filterAdd {b : Fwp.State} (hb : Same s b) {filter : Filter}
    {callout : Option (Id × Callout)} {id : Id}
    (h : call s (.filterAdd filter callout) = some (s', .id id)) (t : Tid) :
    ∃ c b', callout = some c ∧ Same s' b' ∧ Fwp.addFwpmFilter b t filter callout =
      some (b'.push t (.found (.notifyAddFilter filter.calloutKey filter.rawContext)
        c.2.registration false)) := by
  simp only [call, Option.ite_none_right_eq_some, Option.some.injEq] at h
  obtain ⟨hfinds, h⟩ := h
  cases callout with
  | none => cases h
  | some c =>
    cases h
    refine ⟨c, { b with
      nextId := b.nextId + 1, fwpmFilters := insertNew b.fwpmFilters b.nextId filter }, rfl,
      ⟨?_, hb.fwpsCallouts, ?_⟩, ?_⟩
    · exact congrArg (· + 1) hb.nextId
    · show insertNew b.fwpmFilters b.nextId filter = _
      rw [hb.fwpmFilters, hb.nextId]
      exact filtersOf_insertNew s.fwpmFilters s.nextId ⟨filter, s.added.length, c.2.registration⟩
    · unfold Fwp.addFwpmFilter
      rw [if_pos (hb.finds hfinds)]
      rfl

/-- A deletion that comes back is one of the engine. -/
theorem Same.filterDelete {b : Fwp.State} (hb : Same s b) {id : Id}
    {callout : Option (Id × Callout)} {status : Status}
    (h : call s (.filterDelete (id.setWidth 64) callout) = some (s', .status status)) (t : Tid) :
    ∃ x c b', s.current (id.setWidth 64) = some x ∧ callout = some c ∧ Same s' b' ∧
      Fwp.removeFwpmFilter b t id (some (x.1, x.2.filter)) callout =
        some (b'.push t (.found (.notifyDeleteFilter c.2.registration x.2.filter.rawContext)
          c.2.registration false)) := by
  cases hcurrent : s.current (id.setWidth 64) with
  | none =>
    rw [call_filterDelete_of_none hcurrent] at h
    cases h
  | some x =>
    rw [call_filterDelete_of_some hcurrent, Option.ite_none_right_eq_some, Option.some.injEq] at h
    obtain ⟨hfinds, h⟩ := h
    obtain ⟨hx, hkey⟩ := current_eq_some hcurrent
    have hid : x.1 = id := setWidth_inj hkey
    cases callout with
    | none => cases h
    | some c =>
      cases h
      have hfilter :
          Fwp.finds b.fwpmFilters (fun y => y.1 = id) (some (x.1, x.2.filter)) = true := by
        rw [hb.fwpmFilters]
        simp only [Fwp.finds, Bool.and_eq_true, decide_eq_true_eq]
        exact ⟨List.mem_map.mpr ⟨x, hx, rfl⟩, hid⟩
      refine ⟨x, c, { b with fwpmFilters := eraseKey b.fwpmFilters id }, rfl, rfl,
        ⟨hb.nextId, hb.fwpsCallouts, ?_⟩, ?_⟩
      · show eraseKey b.fwpmFilters id = _
        rw [hb.fwpmFilters]
        exact filtersOf_erase s.fwpmFilters id
      · unfold Fwp.removeFwpmFilter
        simp only [hfilter, hb.finds hfinds, Bool.and_self, if_true]
        rfl

/-! ## Look-ups -/

theorem findsCallout_some {calloutKey : Guid} {c : Id × Callout}
    (h : s.findsCallout calloutKey (some c) = true) :
    c ∈ s.fwpsCallouts ∧ c.2.calloutKey = calloutKey := by
  simpa [State.findsCallout, finds] using h

/-- A callout that is registered is found. -/
theorem exists_of_findsCallout {calloutKey : Guid} {callout : Option (Id × Callout)}
    (h : s.findsCallout calloutKey callout = true)
    (hregistered : ∃ x ∈ s.fwpsCallouts, x.2.calloutKey = calloutKey) :
    ∃ c, callout = some c ∧ c ∈ s.fwpsCallouts ∧ c.2.calloutKey = calloutKey := by
  cases callout with
  | some c => exact ⟨c, rfl, findsCallout_some h⟩
  | none =>
    obtain ⟨x, hx, hkey⟩ := hregistered
    have hnone := List.all_eq_true.mp h x hx
    simp [hkey] at hnone

theorem notificationsOf_cons_of_ne {n : Notification} {type : NotifyType} {x : Entry}
    (h : s'.notifications = n :: s.notifications) (hne : n.type ≠ type ∨ n.number ≠ x.number) :
    s'.notificationsOf type x = s.notificationsOf type x := by
  unfold State.notificationsOf
  rw [h]
  refine List.filter_cons_of_neg ?_
  rcases hne with hne | hne <;> simp [hne]

theorem notificationsOf_cons_self {n : Notification} {x : Entry}
    (h : s'.notifications = n :: s.notifications) (hnumber : n.number = x.number) :
    s'.notificationsOf n.type x = n :: s.notificationsOf n.type x := by
  unfold State.notificationsOf
  rw [h]
  exact List.filter_cons_of_pos (by simp [hnumber])

/-! ## The invariant -/

structure Inv (s : State) : Prop where
  registrations : ∀ c ∈ s.fwpsCallouts, c.2.registration < s.nextRegistration
  keys : (s.fwpmFilters.map Prod.fst).Nodup
  entries : ∀ y ∈ s.fwpmFilters, y.2 ∈ s.added
  once : ∀ y ∈ s.fwpmFilters, ∀ z ∈ s.fwpmFilters, y.2 = z.2 → y = z
  numbers : ∀ x ∈ s.added, x.number < s.added.length
  unique : ∀ x ∈ s.added, ∀ y ∈ s.added, x.number = y.number → x = y
  notified : ∀ n ∈ s.notifications, n.number < s.added.length
  witnessed : ∀ x ∈ s.witnessed, x ∈ s.added ∧ ¬ ∃ id, (id, x) ∈ s.fwpmFilters
  balanced : ∀ x ∈ s.added, Balanced s x

theorem inv_init : Inv State.init := by
  constructor <;> simp [State.init]

/-- Nothing has happened to the filter. -/
theorem Balanced.congr {x : Entry} (h : Balanced s x)
    (hnotifications : ∀ type, s'.notificationsOf type x = s.notificationsOf type x)
    (hcurrent : (∃ id, (id, x) ∈ s'.fwpmFilters) ↔ ∃ id, (id, x) ∈ s.fwpmFilters)
    (hwitnessed : x ∈ s'.witnessed → x ∈ s.witnessed) : Balanced s' x where
  add := by
    rw [hnotifications]
    exact h.add
  current := by
    rw [hnotifications, hcurrent]
    exact h.current
  deleted := by
    rw [hnotifications, hcurrent]
    intro hgone
    obtain ⟨n, hn, hcontext, hadder⟩ := h.deleted hgone
    exact ⟨n, hn, hcontext, fun hx => hadder (hwitnessed hx)⟩

/-- The callouts change. -/
theorem Inv.callouts (hi : Inv s) (nextId : Id) {fwpsCallouts : List (Id × Callout)}
    {nextRegistration : Registration}
    (h : ∀ c ∈ fwpsCallouts, c.2.registration < nextRegistration) :
    Inv { s with
      nextId := nextId, fwpsCallouts := fwpsCallouts, nextRegistration := nextRegistration } where
  registrations := h
  keys := hi.keys
  entries := hi.entries
  once := hi.once
  numbers := hi.numbers
  unique := hi.unique
  notified := hi.notified
  witnessed := hi.witnessed
  balanced := fun x hx => (hi.balanced x hx).congr (fun _ => rfl) Iff.rfl id

theorem Inv.register (hi : Inv s) (calloutKey : Guid) :
    Inv (registerFwpsCallout s calloutKey).1 := by
  refine hi.callouts _ fun c hc => ?_
  rcases mem_insertNew hc with rfl | hc
  · exact Nat.lt_succ_self _
  · exact Nat.lt_succ_of_lt (hi.registrations c hc)

theorem Inv.unregister (hi : Inv s) (calloutId : Id) : Inv (removeFwpsCallout s calloutId).1 :=
  hi.callouts s.nextId fun c hc => hi.registrations c (mem_eraseKey.mp hc).1

/-- Nobody has been told of a filter that is not there yet. -/
theorem Inv.notificationsOf_new (hi : Inv s) {x : Entry} (hx : x.number = s.added.length)
    (type : NotifyType) : s.notificationsOf type x = [] := by
  refine List.filter_eq_nil_iff.mpr fun n hn h => ?_
  rw [Bool.and_eq_true, decide_eq_true_eq, decide_eq_true_eq] at h
  have hlt := hi.notified n hn
  omega

/-- A filter is added under an id that is free. -/
theorem Inv.add (hi : Inv s) (filter : Filter) (c : Id × Callout)
    (hnew : ∀ x ∈ s.fwpmFilters, x.1 ≠ s.nextId) : Inv (addFwpmFilter s filter (some c)).1 := by
  set x : Entry :=
    { filter := filter, number := s.added.length, addedBy := c.2.registration } with hx
  have hfresh : x ∉ s.added := new_of_number hi.numbers rfl
  have hfilters : (addFwpmFilter s filter (some c)).1.fwpmFilters =
      (s.nextId, x) :: s.fwpmFilters := insertNew_of_new hnew
  have hnotifications : (addFwpmFilter s filter (some c)).1.notifications =
      addNotification x :: s.notifications := rfl
  have hadded : (addFwpmFilter s filter (some c)).1.added = x :: s.added := rfl
  have hcurrent : ∀ y, y ≠ x → ((∃ id, (id, y) ∈ (addFwpmFilter s filter (some c)).1.fwpmFilters) ↔
      ∃ id, (id, y) ∈ s.fwpmFilters) := by
    intro y hy
    rw [hfilters]
    refine exists_congr fun id => ?_
    rw [List.mem_cons]
    exact or_iff_right fun h => hy (congrArg Prod.snd h)
  have hwitnessed : x ∉ s.witnessed := fun h => hfresh (hi.witnessed x h).1
  refine ⟨hi.registrations, ?_, ?_, ?_, ?_, ?_, ?_, ?_, ?_⟩
  · exact nodup_insertNew hi.keys
  · intro y hy
    rw [hfilters] at hy
    rw [hadded]
    rcases List.mem_cons.mp hy with rfl | hy
    · exact List.mem_cons_self
    · exact List.mem_cons_of_mem _ (hi.entries y hy)
  · intro y hy z hz hyz
    rw [hfilters] at hy hz
    rcases List.mem_cons.mp hy with rfl | hy <;> rcases List.mem_cons.mp hz with rfl | hz
    · rfl
    · exact absurd (hi.entries z hz) (hyz ▸ hfresh)
    · exact absurd (hi.entries y hy) (hyz ▸ hfresh)
    · exact hi.once y hy z hz hyz
  · rw [hadded]
    exact number_lt_cons hi.numbers rfl
  · intro y hy z hz hyz
    rw [hadded] at hy hz
    rcases List.mem_cons.mp hy with rfl | hy <;> rcases List.mem_cons.mp hz with rfl | hz
    · rfl
    · have hlt := hi.numbers z hz
      have heq : s.added.length = z.number := hyz
      omega
    · have hlt := hi.numbers y hy
      have heq : y.number = s.added.length := hyz
      omega
    · exact hi.unique y hy z hz hyz
  · intro n hn
    rw [hnotifications] at hn
    rcases List.mem_cons.mp hn with rfl | hn
    · exact Nat.lt_succ_self _
    · exact Nat.lt_succ_of_lt (hi.notified n hn)
  · intro y hy
    obtain ⟨hmem, hgone⟩ := hi.witnessed y hy
    refine ⟨List.mem_cons_of_mem _ hmem, ?_⟩
    rw [hcurrent y fun h => hwitnessed (h ▸ hy)]
    exact hgone
  · intro y hy
    rw [hadded] at hy
    rcases List.mem_cons.mp hy with rfl | hy
    · have hdelete : (addNotification x).type ≠ .deleteFilter := nofun
      have hnone : ∀ type, s.notificationsOf type x = [] := hi.notificationsOf_new rfl
      refine ⟨?_, fun _ => ?_, fun hgone => ?_⟩
      · exact (notificationsOf_cons_self hnotifications rfl).trans (congrArg _ (hnone _))
      · exact (notificationsOf_cons_of_ne hnotifications (.inl hdelete)).trans (hnone _)
      · exact absurd ⟨s.nextId, hfilters ▸ List.mem_cons_self⟩ hgone
    · refine (hi.balanced y hy).congr (fun type => ?_) (hcurrent y ?_) id
      · have hlt := hi.numbers y hy
        have hne : (addNotification x).number ≠ y.number := by
          show s.added.length ≠ y.number
          omega
        exact notificationsOf_cons_of_ne hnotifications (.inr hne)
      · rintro rfl
        exact hfresh hy

/-- The entry of one filter goes. -/
theorem Inv.mem_erase (hi : Inv s) {x : Id × Entry} (hx : x ∈ s.fwpmFilters) (y : Id × Entry) :
    y ∈ s.fwpmFilters.filter (fun y => y.1.setWidth 64 ≠ x.1.setWidth 64) ↔
      y ∈ s.fwpmFilters ∧ y ≠ x := by
  rw [List.mem_filter, decide_eq_true_eq]
  refine and_congr_right fun hy => not_congr ⟨fun h => ?_, fun h => h ▸ rfl⟩
  exact eq_of_key_eq hi.keys hy hx (setWidth_inj h)

/-- A filter is deleted, and the callout that is told is the one that was told of it. -/
theorem Inv.remove (hi : Inv s) {x : Id × Entry} (hx : x ∈ s.fwpmFilters) {c : Id × Callout}
    (hkey : c.2.calloutKey = x.2.filter.calloutKey)
    (hadder : s.registered x.2.addedBy = true → c.2.registration = x.2.addedBy) :
    Inv (removeFwpmFilter s (x.1.setWidth 64) x.2 (some c)).1 := by
  set s' := (removeFwpmFilter s (x.1.setWidth 64) x.2 (some c)).1 with hs'
  set n : Notification :=
    { type := .deleteFilter, registration := c.2.registration, calloutKey := c.2.calloutKey
      context := x.2.filter.rawContext, number := x.2.number } with hn
  have hmem : ∀ y, y ∈ s'.fwpmFilters ↔ y ∈ s.fwpmFilters ∧ y ≠ x := hi.mem_erase hx
  have hnotifications : s'.notifications = n :: s.notifications := rfl
  have hadded : x.2 ∈ s.added := hi.entries x hx
  have hgone : ¬ ∃ id, (id, x.2) ∈ s'.fwpmFilters := by
    rintro ⟨id, hid⟩
    obtain ⟨hid, hne⟩ := (hmem _).mp hid
    exact hne (hi.once _ hid x hx rfl)
  have hcurrent : ∀ y, y ≠ x.2 →
      ((∃ id, (id, y) ∈ s'.fwpmFilters) ↔ ∃ id, (id, y) ∈ s.fwpmFilters) := by
    intro y hy
    refine exists_congr fun id => ?_
    rw [hmem]
    exact and_iff_left fun h => hy (congrArg Prod.snd h)
  have hwitnessed : ∀ y ∈ s'.witnessed,
      y ∈ s.witnessed ∨ y = x.2 ∧ s.registered x.2.addedBy = true := by
    intro y hy
    replace hy : y ∈ if s.registered x.2.addedBy then x.2 :: s.witnessed else s.witnessed := hy
    split at hy
    · rename_i hregistered
      rcases List.mem_cons.mp hy with rfl | hy
      · exact .inr ⟨rfl, hregistered⟩
      · exact .inl hy
    · exact .inl hy
  have hnew : x.2 ∉ s.witnessed := fun h => (hi.witnessed _ h).2 ⟨x.1, hx⟩
  refine ⟨hi.registrations, hi.keys.sublist (List.filter_sublist.map Prod.fst), ?_, ?_, hi.numbers,
    hi.unique, ?_, ?_, ?_⟩
  · exact fun y hy => hi.entries y ((hmem y).mp hy).1
  · exact fun y hy z hz => hi.once y ((hmem y).mp hy).1 z ((hmem z).mp hz).1
  · intro m hm
    rw [hnotifications] at hm
    rcases List.mem_cons.mp hm with rfl | hm
    · exact hi.numbers _ hadded
    · exact hi.notified m hm
  · intro y hy
    rcases hwitnessed y hy with hy | ⟨rfl, -⟩
    · obtain ⟨hy', hygone⟩ := hi.witnessed y hy
      refine ⟨hy', ?_⟩
      rintro ⟨id, hid⟩
      exact hygone ⟨id, ((hmem _).mp hid).1⟩
    · exact ⟨hadded, hgone⟩
  · intro y hy
    by_cases hyx : y = x.2
    · subst hyx
      have hold := hi.balanced _ hadded
      have hdelete : n.type ≠ .addFilter := nofun
      refine ⟨?_, fun h => absurd h hgone, fun _ => ⟨n, ?_, rfl, fun hy => ?_⟩⟩
      · exact (notificationsOf_cons_of_ne hnotifications (.inl hdelete)).trans hold.add
      · exact (notificationsOf_cons_self hnotifications rfl).trans
          (congrArg _ (hold.current ⟨x.1, hx⟩))
      · rcases hwitnessed _ hy with hy | ⟨-, hregistered⟩
        · exact absurd hy hnew
        · rw [hn, hadder hregistered, hkey]
          rfl
    · have hnumber : n.number ≠ y.number := fun h => hyx (hi.unique _ hadded y hy h).symm
      refine (hi.balanced y hy).congr (fun type => ?_) (hcurrent y hyx) fun h => ?_
      · exact notificationsOf_cons_of_ne hnotifications (.inr hnumber)
      · exact (hwitnessed y h).resolve_right fun h => hyx h.1

/-! ## Calls -/

/-- What a call does, and that it leaves the notifications balanced. -/
structure Kept (s : State) (a : Action) (s' : State) (reply : Reply) : Prop where
  spec : CallSpec s a s' reply
  inv : Inv s'

theorem kept_call (hi : Inv s) (hc : Contract s a) (hg : Clear s a)
    (h : call s a = some (s', reply)) : Kept s a s' reply := by
  cases a with
  | calloutRegister calloutKey =>
    cases h
    refine ⟨⟨s.nextId, rfl, ?_⟩, hi.register calloutKey⟩
    show _ ∈ insertNew s.fwpsCallouts s.nextId _
    rw [insertNew_of_new hg]
    exact List.mem_cons_self
  | calloutUnregister calloutId =>
    cases h
    exact ⟨⟨_, rfl⟩, hi.unregister calloutId⟩
  | filterAdd filter callout =>
    simp only [call, Option.ite_none_right_eq_some, Option.some.injEq] at h
    obtain ⟨hfinds, h⟩ := h
    obtain ⟨c, rfl, hmem, hkey⟩ := exists_of_findsCallout hfinds hc
    have hnew := hg hfinds
    cases h
    refine ⟨?_, hi.add filter c hnew⟩
    exact ⟨s.nextId, _, rfl, rfl, insertNew_of_new hnew, ⟨c, hmem, hkey, rfl⟩, rfl⟩
  | filterDelete id callout =>
    obtain ⟨x, hcurrent, hcallout⟩ := hg
    rw [call_filterDelete_of_some hcurrent, Option.ite_none_right_eq_some, Option.some.injEq] at h
    obtain ⟨hfinds, h⟩ := h
    obtain ⟨c, rfl, hadder⟩ := hcallout hfinds
    obtain ⟨-, hkey⟩ := findsCallout_some hfinds
    obtain ⟨hx, rfl⟩ := current_eq_some hcurrent
    cases h
    refine ⟨?_, hi.remove hx hkey hadder⟩
    show DeleteSpec _ _ _ (s.current _)
    rw [hcurrent]
    refine ⟨rfl, hi.mem_erase hx, rfl, fun hregistered => ?_⟩
    show _ :: s.notifications = _
    rw [hadder hregistered, hkey]
    rfl

theorem inv_step (hi : Inv s) (hc : Contract s a) (hg : Clear s a) (h : step s a = some s') :
    Inv s' := by
  unfold step at h
  split at h
  · cases h
  · cases h
  · rename_i hcall
    cases h
    exact (kept_call hi hc hg hcall).inv

/-! ## The condition is exact -/

theorem promised_of_clear (hi : Inv s) (hc : Contract s a) (hg : Clear s a) : Promised s a := by
  intro s' reply h
  have hkept := kept_call hi hc hg h
  exact ⟨hkept.spec, hkept.inv.balanced⟩

theorem clear_of_promised (hi : Inv s) (hc : Contract s a) (hp : Promised s a) : Clear s a := by
  cases a with
  | calloutRegister calloutKey =>
    intro x hx hkey
    obtain ⟨⟨id, hid, hmem⟩, -⟩ := hp _ _ rfl
    -- what is in the map was registered before
    replace hmem : (id, _) ∈ insertNew s.fwpsCallouts s.nextId _ := hmem
    rw [insertNew_of_mem hx hkey] at hmem
    exact Nat.lt_irrefl _ (hi.registrations _ hmem)
  | calloutUnregister calloutId => trivial
  | filterAdd filter callout =>
    intro hfinds x hx hkey
    obtain ⟨c, rfl, -, -⟩ := exists_of_findsCallout hfinds hc
    have hcall : call s (.filterAdd filter (some c)) = some (addFwpmFilter s filter (some c)) :=
      if_pos hfinds
    obtain ⟨⟨id, y, -, -, hfilters, -⟩, -⟩ := hp _ _ hcall
    -- the filter has not been inserted
    replace hfilters : insertNew s.fwpmFilters s.nextId _ = _ := hfilters
    rw [insertNew_of_mem hx hkey] at hfilters
    have hlength := congrArg List.length hfilters
    simp at hlength
  | filterDelete id callout =>
    cases hcurrent : s.current id with
    | none =>
      have hspec : DeleteSpec _ _ _ (s.current id) :=
        (hp _ _ (call_filterDelete_of_none hcurrent callout)).1
      rw [hcurrent] at hspec
      cases hspec.1
    | some x =>
      refine ⟨x, hcurrent, fun hfinds => ?_⟩
      have hcall : call s (.filterDelete id callout) =
          some (removeFwpmFilter s id x.2 callout) := by
        rw [call_filterDelete_of_some hcurrent, if_pos hfinds]
      have hspec : DeleteSpec _ _ _ (s.current id) := (hp _ _ hcall).1
      rw [hcurrent] at hspec
      obtain ⟨hreply, -, -, hnotifications⟩ := hspec
      cases callout with
      | none => cases hreply
      | some c =>
        refine ⟨c, rfl, fun hregistered => ?_⟩
        have hhead := List.head_eq_of_cons_eq (hnotifications hregistered)
        exact congrArg Notification.registration hhead

/--
For every run of registrations, unregistrations, additions and deletions in which filters are added
while a callout with their key is registered: all calls do what they should and the notifications of
all filters are balanced, if and only if no id is taken that is in use, and every deletion meets a
filter and a callout with its key, the one that was told of the filter if it is there.
-/
theorem filters_balanced (run : List Action) (hc : Guarded step Contract State.init run) :
    Guarded step Promised State.init run ↔ Guarded step Clear State.init run :=
  guarded_iff_of_contract (P := Inv)
    (fun _ _ hi hc => ⟨clear_of_promised hi hc, promised_of_clear hi hc⟩)
    (fun _ _ _ hi hc hg h => inv_step hi hc hg h) inv_init hc

instance (s : State) : (a : Action) → Decidable (Contract s a)
  | .filterAdd filter _ => inferInstanceAs
      (Decidable (∃ x ∈ s.fwpsCallouts, x.2.calloutKey = filter.calloutKey))
  | .calloutRegister _ | .calloutUnregister _ | .filterDelete .. => isTrue trivial

instance (s : State) : (a : Action) → Decidable (Clear s a)
  | .calloutRegister _ => inferInstanceAs (Decidable (∀ x ∈ s.fwpsCallouts, x.1 ≠ s.nextId))
  | .calloutUnregister _ => isTrue trivial
  | .filterAdd filter callout => inferInstanceAs (Decidable
      (s.findsCallout filter.calloutKey callout = true → ∀ x ∈ s.fwpmFilters, x.1 ≠ s.nextId))
  | .filterDelete id callout => inferInstanceAs (Decidable
      (∃ x ∈ s.current id, (s.findsCallout x.2.filter.calloutKey callout = true →
        ∃ c ∈ callout, (s.registered x.2.addedBy = true → c.2.registration = x.2.addedBy))))

/-- Two callouts with one key, and a filter for each while both are there or one is. -/
def sameKey : List Action :=
  [.calloutRegister 10, .filterAdd ⟨4, 5, 10, 99⟩ (some (1, ⟨10, 0⟩)), .calloutRegister 10,
   .filterDelete 2 (some (1, ⟨10, 0⟩)), .calloutUnregister 1,
   .filterAdd ⟨4, 5, 10, 98⟩ (some (3, ⟨10, 1⟩)), .filterDelete 4 (some (3, ⟨10, 1⟩))]

theorem filters_balanced_sameKey :
    Guarded step Promised State.init sameKey ∧
      ((exec step State.init sameKey).map fun s =>
        s.notifications.map fun n => (n.type, n.registration, n.context)) =
        some [(.deleteFilter, 1, 98), (.addFilter, 1, 98), (.deleteFilter, 0, 99),
          (.addFilter, 0, 99)] := by
  have hc : Guarded step Contract State.init sameKey := guarded_of_check (by decide +kernel)
  have hg : Guarded step Clear State.init sameKey := guarded_of_check (by decide +kernel)
  exact ⟨(filters_balanced sameKey hc).mpr hg, by decide +kernel⟩

/-- The deletion of a filter that is not there calls a null callout, and so does the deletion of a
filter whose callout has been unregistered. -/
theorem deletion_calls_null :
    (∃ s, exec step State.init [.calloutRegister 10] = some s ∧ s.current 77 = none ∧
      call s (.filterDelete 77 none) = some (s, .nullCallout) ∧
      ¬ Promised s (.filterDelete 77 none)) ∧
    ∃ s, exec step State.init
        [.calloutRegister 10, .filterAdd ⟨4, 5, 10, 99⟩ (some (1, ⟨10, 0⟩)), .calloutUnregister 1] =
          some s ∧
      s.current 2 = some (2, ⟨⟨4, 5, 10, 99⟩, 0, 0⟩) ∧
      call s (.filterDelete 2 none) = some (s, .nullCallout) ∧
        ¬ Promised s (.filterDelete 2 none) := by
  refine ⟨⟨_, rfl, rfl, rfl, fun h => ?_⟩, ⟨_, rfl, rfl, rfl, fun h => ?_⟩⟩
  · obtain ⟨⟨hreply, -⟩, -⟩ := h _ _ rfl
    cases hreply
  · obtain ⟨⟨hreply, -⟩, -⟩ := h _ _ rfl
    cases hreply

end Usersim.Fwp.Filters
