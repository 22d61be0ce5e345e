import Usersim.Wdf.DeviceAdd

/-!
# Loading and unloading drivers

`UsersimStopDriver` runs on every detach, whatever DriverEntry did: it reads the global slot without
looking whether a WdfDriverCreate has set it, and calls EvtDriverUnload of the configuration even if
DriverEntry has failed. Everything else it does right: the devices that are left are deleted one by
one, and the slot is cleared for the next module.

* `driver_sessions` — for every sequence of loads, just when every one of them is unloaded right
-/

namespace Usersim.Wdf

open Lib

variable {base : Heap} {id : DriverId} {before : List Object} {s s' t : State} {u v : Usage}

/-! ## What the calls of a driver leave alone -/

structure Frame (s s' : State) : Prop where
  driver : s'.driver = s.driver
  unloads : s'.unloads = s.unloads
  config : ∀ i, (s'.drivers i).config = (s.drivers i).config
  given : s.locals.given = none → s'.locals.given = none

theorem Frame.refl (s : State) : Frame s s :=
  ⟨rfl, rfl, fun _ => rfl, fun h => h⟩

theorem Frame.trans (h : Frame s s') (h' : Frame s' t) : Frame s t where
  driver := h'.driver.trans h.driver
  unloads := h'.unloads.trans h.unloads
  config := fun i => (h'.config i).trans (h.config i)
  given := fun hg => h'.given (h.given hg)

theorem setDevices_config (s : State) (id i : DriverId) (devices : List Object) :
    ((s.setDevices id devices).drivers i).config = (s.drivers i).config := by
  by_cases hi : i = id
  · subst hi
    simp [State.setDevices]
  · simp [State.setDevices, hi]

theorem frame_objectDelete (s : State) (o : Option Object) : Frame s (objectDelete s o) := by
  unfold objectDelete
  split
  · exact ⟨rfl, rfl, fun i => setDevices_config s _ i _, fun h => h⟩
  · exact ⟨rfl, rfl, fun _ => rfl, fun h => h⟩

theorem setNull_given {l : Locals} (h : l.given = none) (var : InitVar) :
    (l.setNull var).given = none := by
  cases var with
  | given => rfl
  | own k => exact h

theorem frame_runOp {op : Op} (h : runOp s op = some s') : Frame s s' := by
  cases op with
  | deviceCreate globals allocated var =>
    simp only [runOp, deviceCreate] at h
    split at h
    · cases h
      exact Frame.refl s
    · split at h
      · cases h
        exact Frame.refl s
      · split at h
        · split at h
          · cases h
          · cases h
            exact ⟨rfl, rfl, fun i => setDevices_config s _ i _, fun h => setNull_given h var⟩
        · cases h
  | initAllocate allocated =>
    cases allocated with
    | false =>
      cases h
      exact ⟨rfl, rfl, fun _ => rfl, fun h => h⟩
    | true =>
      cases h
      exact ⟨rfl, rfl, fun _ => rfl, fun h => h⟩
  | initFree k =>
    cases h
    exact ⟨rfl, rfl, fun _ => rfl, fun h => h⟩
  | objectDelete k =>
    cases h
    exact frame_objectDelete s _

theorem frame_ops {ops : List Op} (h : exec runOp s ops = some s') : Frame s s' :=
  exec_invariant (P := Frame s) (fun _ _ _ hf hs => hf.trans (frame_runOp hs)) (Frame.refl s) h

theorem frame_deleteDownTo (id : DriverId) (n rounds : Nat) (s : State) :
    Frame s (deleteDownTo id n rounds s) :=
  deleteDownTo_invariant (P := Frame s) (fun t _ _ hf => hf.trans (frame_objectDelete t _))
    (Frame.refl s)

theorem frame_afterDeviceAdd (id : DriverId) (n : Nat) (init : Object) (status : Status)
    (s : State) : Frame s (afterDeviceAdd id n init status s) := by
  have hforget : Frame s { s with locals := { s.locals with given := none } } :=
    ⟨rfl, rfl, fun _ => rfl, fun _ => rfl⟩
  simp only [afterDeviceAdd]
  split
  · exact hforget
  · split
    · exact hforget.trans (frame_deleteDownTo ..)
    · exact ⟨rfl, rfl, fun _ => rfl, fun _ => rfl⟩

theorem given_afterDeviceAdd (id : DriverId) (n : Nat) (init : Object) (status : Status)
    (s : State) : (afterDeviceAdd id n init status s).locals.given = none := by
  simp only [afterDeviceAdd]
  split
  · rfl
  · split
    · exact (frame_deleteDownTo id n _ _).given rfl
    · rfl

/-! ## DriverEntry -/

/-- The configuration of a WdfDriverCreate with the right globals. -/
def EntryOp.config : EntryOp → Option DriverConfig
  | .driverCreate globals _ config => if globals then some config else none
  | .device _ => none

/-- The configuration of the WdfDriverCreate that sets the slot. -/
def Driver.config (driver : Driver) : Option DriverConfig :=
  driver.entry.findSome? EntryOp.config

def Usage.entryOp (u : Usage) : EntryOp → Option Usage
  | .device op => u.op op
  | .driverCreate globals allocated config =>
    if globals && !u.driver then
      match config.evtDriverDeviceAdd with
      | some deviceAdd =>
        if allocated then
          (exec Usage.op u.deviceAdd deviceAdd.ops).map fun v => v.afterDeviceAdd deviceAdd.status
        else some { u with driver := true }
      | none => some { u with driver := true }
    else some u

/-- The slot is set, and no device has been created yet. -/
theorem Tracks.setDriver (ht : Tracks base id before s u) (config : DriverConfig) :
    Tracks base id before
      { s with
        driver := some id
        drivers := Function.update s.drivers id { s.drivers id with config := config } }
      { u with driver := true } := by
  refine ⟨rfl, ?_, ht.heap, ?_, ht.inits, ht.length⟩
  · intro hdriver
    cases hdriver
  · simpa [State.devices] using ht.devices

/-- A WdfDriverCreate that is refused, or sets the slot and is done, or calls EvtDriverDeviceAdd. -/
theorem driverCreate_cases (s : State) (id : DriverId) (globals allocated : Bool)
    (config : DriverConfig) :
    ((globals && s.driver.isNone) = false ∧
      (driverCreate s id globals allocated config).map Prod.fst = some s) ∨
    ((globals && s.driver.isNone) = true ∧
      (config.evtDriverDeviceAdd = none ∨ allocated = false) ∧
      (driverCreate s id globals allocated config).map Prod.fst =
        some { s with
          driver := some id
          drivers := Function.update s.drivers id { s.drivers id with config := config } }) ∨
    ((globals && s.driver.isNone) = true ∧ allocated = true ∧
      ∃ deviceAdd, config.evtDriverDeviceAdd = some deviceAdd ∧
        (driverCreate s id globals allocated config).map Prod.fst =
          (exec runOp (deviceAddState s id config) deviceAdd.ops).map
            (afterDeviceAdd id (s.devices id).length s.heap.next deviceAdd.status)) := by
  cases globals with
  | false => exact .inl ⟨rfl, rfl⟩
  | true =>
    cases hdriver : s.driver with
    | some id' => exact .inl ⟨rfl, by simp [driverCreate, hdriver]⟩
    | none =>
      cases hadd : config.evtDriverDeviceAdd with
      | none =>
        refine .inr (.inl ⟨rfl, .inl rfl, ?_⟩)
        simp [driverCreate, hdriver, hadd]
      | some deviceAdd =>
        cases allocated with
        | false =>
          refine .inr (.inl ⟨rfl, .inr rfl, ?_⟩)
          simp [driverCreate, hdriver, hadd, controlDeviceInitAllocate]
        | true =>
          refine .inr (.inr ⟨rfl, rfl, deviceAdd, rfl, ?_⟩)
          rw [driverCreate_eq hdriver hadd, Option.map_map]
          rfl

/-- A module outside of EvtDriverDeviceAdd. -/
def EntryOk (base : Heap) (id : DriverId) (s : State) (u : Usage) : Prop :=
  Tracks base id [] s u ∧ s.locals.given = none

theorem EntryOk.isNone (h : EntryOk base id s u) : s.driver.isNone = !u.driver := by
  rw [h.1.slot]
  cases u.driver <;> rfl

theorem entryOk_driverCreate (h : EntryOk base id s u) (globals allocated : Bool)
    (config : DriverConfig) :
    Option.Rel (EntryOk base id) (runEntryOp id s (.driverCreate globals allocated config))
      (u.entryOp (.driverCreate globals allocated config)) := by
  simp only [runEntryOp, Usage.entryOp, ← h.isNone]
  rcases driverCreate_cases s id globals allocated config with
    ⟨hset, hcreate⟩ | ⟨hset, hadd, hcreate⟩ | ⟨hset, rfl, deviceAdd, hadd, hcreate⟩
  · rw [hcreate, hset, if_neg Bool.false_ne_true]
    exact .some h
  · have hdone : EntryOk base id
        { s with
          driver := some id
          drivers := Function.update s.drivers id { s.drivers id with config := config } }
        { u with driver := true } := ⟨h.1.setDriver config, h.2⟩
    rw [hcreate, hset, if_pos rfl]
    rcases hadd with hadd | rfl
    · rw [hadd]
      exact .some hdone
    · cases config.evtDriverDeviceAdd <;> exact .some hdone
  · have hdriver : u.driver = false := by
      rw [Bool.and_eq_true, h.isNone] at hset
      simpa using hset.2
    have hcreated := h.1.early hdriver
    have hdevices : (s.devices id).length = ([] : List Object).length := by
      have hnil : s.locals.created = [] := by
        rw [← List.length_eq_zero_iff, h.1.length, hcreated]
        rfl
      rw [h.1.devices.devices, hnil]
      rfl
    have hrun := given_ops (h.1.deviceAdd h.2 config) (h.1.given hcreated config) deviceAdd.ops
    rw [hcreate, hset, if_pos rfl, hadd, hdevices]
    simp only [if_true]
    generalize exec runOp (deviceAddState s id config) deviceAdd.ops = x at hrun ⊢
    generalize hu : exec Usage.op u.deviceAdd deviceAdd.ops = y at hrun ⊢
    cases hrun with
    | none => exact .none
    | some ht =>
      refine .some ⟨?_, given_afterDeviceAdd ..⟩
      exact ht.1.afterDeviceAdd ht.2 (usage_driver hu) h.1.heap.next_le deviceAdd.status

theorem entryOk_track (h : EntryOk base id s u) (op : EntryOp) :
    Option.Rel (EntryOk base id) (runEntryOp id s op) (u.entryOp op) := by
  cases op with
  | device op =>
    refine rel_imp (track h.1 op) ?_
    intro s' u' hs _ ht
    exact ⟨ht, (frame_runOp hs).given h.2⟩
  | driverCreate globals allocated config => exact entryOk_driverCreate h globals allocated config

/-- The slot and the configuration it leads to. -/
def Slot (id : DriverId) (s : State) : Option DriverConfig → Prop
  | none => s.driver = none
  | some config => s.driver = some id ∧ (s.drivers id).config = config

theorem Slot.frame {accepted : Option DriverConfig} (h : Slot id s accepted) (hf : Frame s s') :
    Slot id s' accepted := by
  cases accepted with
  | none => exact hf.driver.trans h
  | some config => exact ⟨hf.driver.trans h.1, (hf.config id).trans h.2⟩

theorem slot_driverCreate {accepted : Option DriverConfig} {globals allocated : Bool}
    {config : DriverConfig} (h : Slot id s accepted)
    (hs : runEntryOp id s (.driverCreate globals allocated config) = some s') :
    Slot id s' (accepted.or (EntryOp.config (.driverCreate globals allocated config))) ∧
      s'.unloads = s.unloads := by
  simp only [runEntryOp] at hs
  have hset : Slot id
      { s with
        driver := some id
        drivers := Function.update s.drivers id { s.drivers id with config := config } }
      (some config) := ⟨rfl, by simp⟩
  rcases driverCreate_cases s id globals allocated config with
    ⟨hrefused, hcreate⟩ | ⟨hnone, -, hcreate⟩ | ⟨hnone, -, deviceAdd, -, hcreate⟩
  · rw [hcreate] at hs
    cases hs
    refine ⟨?_, rfl⟩
    cases accepted with
    | some config' => exact h
    | none =>
      have hdriver : s.driver = none := h
      rw [hdriver] at hrefused
      cases globals with
      | false => exact h
      | true => cases hrefused
  all_goals
    rw [Bool.and_eq_true, Option.isNone_iff_eq_none] at hnone
    have haccepted : accepted = none := by
      cases accepted with
      | none => rfl
      | some config' =>
        rw [h.1] at hnone
        cases hnone.2
    rw [haccepted, Option.none_or, EntryOp.config, if_pos hnone.1]
  · rw [hcreate] at hs
    cases hs
    exact ⟨hset, rfl⟩
  · rw [hcreate, Option.map_eq_some_iff] at hs
    obtain ⟨t, ht, rfl⟩ := hs
    have hstate : Slot id (deviceAddState s id config) (some config) :=
      ⟨rfl, by simp [deviceAddState]⟩
    have hframe := (frame_ops ht).trans (frame_afterDeviceAdd id (s.devices id).length
      s.heap.next deviceAdd.status t)
    exact ⟨hstate.frame hframe, hframe.unloads⟩

theorem slot_entry {entry : List EntryOp} :
    ∀ {s : State} {accepted : Option DriverConfig}, Slot id s accepted →
      exec (runEntryOp id) s entry = some s' →
      Slot id s' (accepted.or (entry.findSome? EntryOp.config)) ∧ s'.unloads = s.unloads := by
  induction entry with
  | nil =>
    intro s accepted h hs
    cases hs
    rw [List.findSome?_nil, Option.or_none]
    exact ⟨h, rfl⟩
  | cons op entry ih =>
    intro s accepted h hs
    obtain ⟨s₁, h₁, h₂⟩ := exec_cons_eq_some.mp hs
    have hstep : Slot id s₁ (accepted.or op.config) ∧ s₁.unloads = s.unloads := by
      cases op with
      | device op =>
        have hframe := frame_runOp h₁
        rw [EntryOp.config, Option.or_none]
        exact ⟨h.frame hframe, hframe.unloads⟩
      | driverCreate globals allocated config => exact slot_driverCreate h h₁
    obtain ⟨hslot, hunloads⟩ := ih hstep.1 h₂
    rw [List.findSome?_cons]
    refine ⟨?_, hunloads.trans hstep.2⟩
    cases hop : op.config with
    | none => simpa [hop] using hslot
    | some config => simpa [hop, Option.or_assoc] using hslot

/-! ## A session -/

/-- What is expected of a module that is loaded and unloaded. -/
structure SessionOk (s s' : State) (l : Load) : Prop where
  unloads : s'.unloads =
    if ntSuccess l.driver.status = true ∧ (l.driver.config.any fun config =>
      config.evtDriverUnload.isSome) = true then l.id :: s.unloads else s.unloads
  devicesFreedOnce : ∀ d ∈ s'.locals.created, s'.heap.freed.count d = 1
  driver : s'.driver = none
  devices : s'.devices l.id = []

/-- DriverEntry calls WdfDriverCreate, the driver creates devices from inits it holds and deletes
none of them twice, and DriverEntry succeeds if EvtDriverUnload is registered. -/
structure Driver.Handled (driver : Driver) (config : DriverConfig) (u v : Usage) : Prop where
  creates : driver.config = some config
  entry : exec Usage.entryOp .entry driver.entry = some u
  unload : exec Usage.op u (config.evtDriverUnload.getD []) = some v
  deletedOnce : v.deleted.Nodup
  succeeds : config.evtDriverUnload.isSome = true → ntSuccess driver.status = true

/-- Between two sessions. -/
structure Idle (s : State) : Prop where
  driver : s.driver = none
  allocated : ∀ o ∈ s.heap.freed, o < s.heap.next

/-- Every device was freed once just when the driver deleted none of them twice. -/
theorem Tracks.created_count_iff
    (ht : Tracks base id before s { u with deleted := u.remaining ++ u.deleted }) :
    (∀ d ∈ s.locals.created, s.heap.freed.count d = 1) ↔ u.deleted.Nodup := by
  rw [← u.nodup_remaining_append_iff]
  constructor
  · intro hone
    rw [List.nodup_iff_count_le_one]
    intro k
    by_cases hk : k ∈ u.remaining ++ u.deleted
    · have hlt := ht.devices.deleted k hk
      have hget := List.getElem?_eq_getElem hlt
      rw [← ht.devices.count k _ hget]
      exact Nat.le_of_eq (hone _ (List.mem_of_getElem? hget))
    · rw [List.count_eq_zero.mpr hk]
      exact Nat.zero_le 1
  · intro hnodup d hmem
    obtain ⟨k, hk⟩ := List.mem_iff_getElem?.mp hmem
    have hlt := (List.getElem?_eq_some_iff.mp hk).1
    rw [ht.length] at hlt
    have hdeleted : k ∈ u.remaining ++ u.deleted := by
      rw [List.mem_append, Usage.mem_remaining]
      by_cases hdel : k ∈ u.deleted
      · exact .inr hdel
      · exact .inl ⟨hlt, hdel⟩
    rw [ht.devices.count k d hk]
    exact List.count_eq_one_of_mem hnodup hdeleted

theorem stopDriver_eq {config : DriverConfig} (h : Slot id s (some config)) :
    stopDriver s =
      (exec runOp { s with unloads :=
          if config.evtDriverUnload.isSome then id :: s.unloads else s.unloads }
        (config.evtDriverUnload.getD [])).map fun t =>
          { deleteDownTo id 0 (t.devices id).length t with driver := none } := by
  unfold stopDriver
  split
  · rename_i hnone
    rw [h.1] at hnone
    cases hnone
  · rename_i id' hid
    rw [h.1] at hid
    cases hid
    rw [h.2]
    cases config.evtDriverUnload with
    | none => rfl
    | some ops =>
      simp only [Option.isSome_some, if_true, Option.getD_some]
      cases exec runOp { s with unloads := id :: s.unloads } ops with
      | none => rfl
      | some t => rfl

theorem session_eq (s : State) (l : Load) :
    session s l =
      (exec (runEntryOp l.id) (s.mapModule l.id) l.driver.entry).bind stopDriver := by
  simp only [session, attach, startDriver]
  cases exec (runEntryOp l.id) (s.mapModule l.id) l.driver.entry with
  | none => rfl
  | some t => rfl

theorem entryOk_mapModule (hi : Idle s) (id : DriverId) :
    EntryOk s.heap id (s.mapModule id) .entry := by
  have hzero : (s.mapModule id).devices id = [] := by
    simp [State.mapModule, State.devices, DriverObject.zero]
  have htracks : Tracks s.heap id ((s.mapModule id).devices id) (s.mapModule id) .entry := by
    refine tracks_entry (s := s.mapModule id) hi.driver rfl hi.allocated ?_
    rw [hzero]
    exact fun d hd => absurd hd List.not_mem_nil
  rw [hzero] at htracks
  exact ⟨htracks, rfl⟩

/-- The state after a session whose unload went through. -/
theorem sessionOk_iff {l : Load} {config : DriverConfig} (ht : Tracks base l.id [] t v)
    (hdriver : v.driver = true) (hconfig : l.driver.config = some config)
    (hunloads : t.unloads =
      if config.evtDriverUnload.isSome then l.id :: s.unloads else s.unloads) :
    SessionOk s { deleteDownTo l.id 0 (t.devices l.id).length t with driver := none } l ↔
      v.deleted.Nodup ∧
        (config.evtDriverUnload.isSome = true → ntSuccess l.driver.status = true) := by
  have hdelete := ht.deleteDownTo hdriver (Nat.le_add_left (t.devices l.id).length _)
  have hframe := frame_deleteDownTo l.id 0 (t.devices l.id).length t
  have hempty := hdelete.devices_of_remaining v.remaining_nil
  have hcalled : (deleteDownTo l.id 0 (t.devices l.id).length t).unloads =
      (if ntSuccess l.driver.status = true ∧ (l.driver.config.any fun config =>
        config.evtDriverUnload.isSome) = true then l.id :: s.unloads else s.unloads) ↔
      (config.evtDriverUnload.isSome = true → ntSuccess l.driver.status = true) := by
    rw [hframe.unloads, hunloads, hconfig, Option.any_some]
    cases config.evtDriverUnload.isSome <;> cases ntSuccess l.driver.status <;> simp
  constructor
  · intro h
    exact ⟨hdelete.created_count_iff.mp h.devicesFreedOnce, hcalled.mp h.unloads⟩
  · intro h
    exact ⟨hcalled.mpr h.2, hdelete.created_count_iff.mpr h.1, rfl, hempty⟩

theorem idle_of_tracks (ht : Tracks base id [] t v) (hdriver : v.driver = true) :
    Idle { deleteDownTo id 0 (t.devices id).length t with driver := none } :=
  ⟨rfl, (ht.deleteDownTo hdriver (Nat.le_add_left _ _)).heap.allocated⟩

/-- A session that goes wrong is one of a driver that is not handled; any other one leaves the slot
clear, and is right just when its driver is handled. -/
structure Settled (s : State) (l : Load) (result : Option State) : Prop where
  crash : result = none → ¬ ∃ config u v, l.driver.Handled config u v
  done : ∀ s', result = some s' →
    Idle s' ∧ (SessionOk s s' l ↔ ∃ config u v, l.driver.Handled config u v)

theorem Driver.Handled.eq {driver : Driver} {config config' : DriverConfig} {u' v' : Usage}
    (h : driver.Handled config' u' v') (hconfig : driver.config = some config)
    (hu : exec Usage.entryOp .entry driver.entry = some u) : config' = config ∧ u' = u := by
  have hcreates := h.creates
  have hentry := h.entry
  rw [hconfig] at hcreates
  rw [hu] at hentry
  exact ⟨(Option.some.inj hcreates).symm, (Option.some.inj hentry).symm⟩

/-- The detach, when DriverEntry has returned. -/
theorem settled_unload {l : Load} (h : EntryOk base l.id t u)
    (hu : exec Usage.entryOp .entry l.driver.entry = some u) (hslot : Slot l.id t l.driver.config)
    (hunloads : t.unloads = s.unloads) : Settled s l (stopDriver t) := by
  cases hconfig : l.driver.config with
  | none =>
    -- no WdfDriverCreate was accepted: the slot is null
    rw [hconfig] at hslot
    have hnone : t.driver = none := hslot
    have hcrash : stopDriver t = none := by
      unfold stopDriver
      rw [hnone]
    rw [hcrash]
    constructor
    · rintro - ⟨config, u', v', h'⟩
      have hcreates := h'.creates
      rw [hconfig] at hcreates
      cases hcreates
    · intro s' hs'
      cases hs'
  | some config =>
    rw [hconfig] at hslot
    rw [stopDriver_eq hslot]
    have hdriver : u.driver = true := by
      have hset := h.isNone
      rw [hslot.1] at hset
      simpa using hset
    have ht : Tracks base l.id []
        { t with unloads :=
            if config.evtDriverUnload.isSome then l.id :: t.unloads else t.unloads } u :=
      ⟨h.1.slot, h.1.early, h.1.heap, h.1.devices, h.1.inits, h.1.length⟩
    have hrun := track_ops ht (config.evtDriverUnload.getD [])
    generalize hs : exec runOp { t with unloads :=
      if config.evtDriverUnload.isSome then l.id :: t.unloads else t.unloads }
      (config.evtDriverUnload.getD []) = x at hrun ⊢
    generalize hv : exec Usage.op u (config.evtDriverUnload.getD []) = y at hrun
    cases hrun with
    | none =>
      constructor
      · rintro - ⟨config', u', v', h'⟩
        obtain ⟨rfl, rfl⟩ := h'.eq hconfig hu
        have hunload := h'.unload
        rw [hv] at hunload
        cases hunload
      · intro s' hs'
        cases hs'
    | @some t' v ht' =>
      have hvdriver := (usage_driver hv).trans hdriver
      have hcalled : t'.unloads =
          if config.evtDriverUnload.isSome then l.id :: s.unloads else s.unloads := by
        rw [(frame_ops hs).unloads, hunloads]
      constructor
      · intro hnone
        cases hnone
      · intro s' hs'
        cases hs'
        refine ⟨idle_of_tracks ht' hvdriver, ?_⟩
        rw [sessionOk_iff ht' hvdriver hconfig hcalled]
        constructor
        · rintro ⟨honce, hsucceeds⟩
          exact ⟨config, u, v, hconfig, hu, hv, honce, hsucceeds⟩
        · rintro ⟨config', u', v', h'⟩
          obtain ⟨rfl, rfl⟩ := h'.eq hconfig hu
          have hunload := h'.unload
          rw [hv] at hunload
          cases hunload
          exact ⟨h'.deletedOnce, h'.succeeds⟩

theorem settled_session (hi : Idle s) (l : Load) : Settled s l (session s l) := by
  rw [session_eq]
  have hrun : Option.Rel (EntryOk s.heap l.id)
      (exec (runEntryOp l.id) (s.mapModule l.id) l.driver.entry)
      (exec Usage.entryOp .entry l.driver.entry) :=
    exec_rel (fun _ _ op h => entryOk_track h op) (entryOk_mapModule hi l.id)
  have hnone : Slot l.id (s.mapModule l.id) none := hi.driver
  generalize ht : exec (runEntryOp l.id) (s.mapModule l.id) l.driver.entry = x at hrun
  generalize hu : exec Usage.entryOp .entry l.driver.entry = y at hrun
  cases hrun with
  | none =>
    constructor
    · rintro - ⟨config, u, v, h⟩
      have hentry := h.entry
      rw [hu] at hentry
      cases hentry
    · intro s' hs'
      cases hs'
  | some h =>
    obtain ⟨hslot, hunloads⟩ := slot_entry hnone ht
    exact settled_unload h hu hslot hunloads

/-! ## Every sequence of loads -/

/-- Every module is loaded and unloaded right. -/
def SessionsOk (s : State) : List Load → Prop
  | [] => True
  | l :: loads => ∃ s', session s l = some s' ∧ SessionOk s s' l ∧ SessionsOk s' loads

theorem sessionsOk_iff {loads : List Load} :
    ∀ {s : State}, Idle s →
      (SessionsOk s loads ↔ ∀ l ∈ loads, ∃ config u v, l.driver.Handled config u v) := by
  induction loads with
  | nil =>
    intro s _
    simp [SessionsOk]
  | cons l loads ih =>
    intro s hi
    have hl := settled_session hi l
    rw [List.forall_mem_cons]
    constructor
    · rintro ⟨s', hs, hok, hrest⟩
      obtain ⟨hidle, hiff⟩ := hl.done s' hs
      exact ⟨hiff.mp hok, (ih hidle).mp hrest⟩
    · rintro ⟨hhandled, hrest⟩
      cases hs : session s l with
      | none => exact absurd hhandled (hl.crash hs)
      | some s' =>
        obtain ⟨hidle, hiff⟩ := hl.done s' hs
        exact ⟨s', hs, hiff.mpr hhandled, (ih hidle).mpr hrest⟩

/-- Modules that are loaded and unloaded one after another: the slot is never read while it is
null, EvtDriverUnload is called once if DriverEntry has succeeded, every device is freed once, and
the slot and the vector are empty for the next module, just when every driver is handled. -/
theorem driver_sessions (loads : List Load) :
    SessionsOk .init loads ↔ ∀ l ∈ loads, ∃ config u v, l.driver.Handled config u v := by
  refine sessionsOk_iff ⟨rfl, ?_⟩
  exact fun o ho => absurd ho List.not_mem_nil

/-- DriverEntry fails before WdfDriverCreate: the detach reads a null pointer. It fails after a
WdfDriverCreate that registered EvtDriverUnload: it is called all the same. -/
theorem failed_entry_unloaded :
    session .init ⟨0, ⟨[], 0xC0000001⟩⟩ = none ∧
      ∃ s, session .init ⟨0, ⟨[.driverCreate true true ⟨none, some []⟩], 0xC0000001⟩⟩ = some s ∧
        s.unloads = [0] :=
  ⟨rfl, _, rfl, rfl⟩

end Usersim.Wdf
