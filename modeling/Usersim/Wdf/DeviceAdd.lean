import Usersim.Wdf.Usage

/-!
# Who frees the init of EvtDriverDeviceAdd

`_WdfDriverCreate` allocates an init for EvtDriverDeviceAdd. `_WdfDeviceCreate` frees it, and if the
callback fails `_WdfDriverCreate` frees it itself unless the number of devices has grown. That the
number has grown is not the same as that the init was used: the device may have been deleted again,
or been created from another init. If the callback succeeds nobody looks.

* `device_init_freed_once` — for every behaviour of the callback, just when the init is freed once
  and no device twice
-/

namespace Usersim.Wdf

open Lib

variable {base h : Heap} {id : DriverId} {before : List Object} {s s' : State} {u u' : Usage}

/-! ## The devices that are left -/

section Devices

variable {devices created : List Object} {deleted : List Nat}

theorem HeapOk.mem_freed_iff (hh : HeapOk base h) {o : Object} (ho : o < base.next) :
    o ∈ h.freed ↔ o ∈ base.freed := by
  rw [← List.count_pos_iff, ← List.count_pos_iff, hh.old o ho]

theorem HeapOk.isDevice_iff (hh : HeapOk base h) {o : Object} (ho : o < base.next) :
    h.isDevice o ↔ base.isDevice o := by
  obtain ⟨rest, hrest⟩ := hh.kinds
  rw [Heap.isDevice, Heap.isDevice, ← hrest, List.getElem?_append_left ho]

theorem DevicesOk.mem_freed_iff (hd : DevicesOk base before h devices created deleted) {k : Nat}
    {d : Object} (hk : created[k]? = some d) : d ∈ h.freed ↔ k ∈ deleted := by
  rw [← List.count_pos_iff, ← List.count_pos_iff, hd.count k d hk]

/-- The vector holds the devices that are still allocated. -/
theorem DevicesOk.mem_devices_iff (hh : HeapOk base h)
    (hd : DevicesOk base before h devices created deleted)
    (hbefore : ∀ d, d ∈ before ↔ base.isDevice d ∧ d ∉ base.freed) (d : Object) :
    d ∈ devices ↔ h.isDevice d ∧ d ∉ h.freed := by
  rw [hd.devices, List.mem_append, List.mem_filter, decide_eq_true_eq]
  constructor
  · rintro (hmem | ⟨hmem, hfree⟩)
    · have hlt := hd.before_lt d hmem
      rw [hh.isDevice_iff hlt, hh.mem_freed_iff hlt]
      exact (hbefore d).mp hmem
    · exact ⟨(hd.ids d hmem).2, hfree⟩
  · rintro ⟨hdev, hfree⟩
    rcases hd.complete d hdev with hlt | hmem
    · rw [hh.isDevice_iff hlt] at hdev
      rw [hh.mem_freed_iff hlt] at hfree
      exact .inl ((hbefore d).mpr ⟨hdev, hfree⟩)
    · exact .inr ⟨hmem, hfree⟩

/-- A device is freed twice just when it is deleted twice. -/
theorem DevicesOk.count_le_one_iff (hh : HeapOk base h)
    (hd : DevicesOk base before h devices created deleted)
    (hbase : ∀ d, base.isDevice d → base.freed.count d ≤ 1) :
    (∀ d, h.isDevice d → h.freed.count d ≤ 1) ↔ deleted.Nodup := by
  rw [List.nodup_iff_count_le_one]
  constructor
  · intro hle k
    by_cases hk : k ∈ deleted
    · have hlt := hd.deleted k hk
      have hget : created[k]? = some created[k] := List.getElem?_eq_getElem hlt
      rw [← hd.count k _ hget]
      exact hle _ (hd.ids _ (List.mem_of_getElem? hget)).2
    · rw [List.count_eq_zero.mpr hk]
      exact Nat.zero_le 1
  · intro hle d hdev
    rcases hd.complete d hdev with hlt | hmem
    · rw [hh.old d hlt]
      exact hbase d ((hh.isDevice_iff hlt).mp hdev)
    · obtain ⟨k, hk⟩ := List.mem_iff_getElem?.mp hmem
      rw [hd.count k d hk]
      exact hle k

end Devices

/-! ## Deleting the devices that are left -/

theorem deleteDownTo_invariant {P : State → Prop} {n : Nat}
    (hP : ∀ s d, d ∈ s.devices id → P s → P (objectDelete s (some d))) {rounds : Nat} :
    ∀ {s : State}, P s → P (deleteDownTo id n rounds s) := by
  induction rounds with
  | zero => exact fun h => h
  | succ rounds ih =>
    intro s h
    rw [deleteDownTo]
    split
    · rename_i hlt
      have hne : s.devices id ≠ [] := by
        intro hnil
        rw [hnil] at hlt
        cases hlt
      rw [List.getLast?_eq_getLast_of_ne_nil hne]
      exact ih (hP s _ (List.getLast_mem hne) h)
    · exact h

theorem mem_devices_of_objectDelete {o : Object} {x : Option Object}
    (h : o ∈ (objectDelete s x).devices id) : o ∈ s.devices id := by
  unfold objectDelete at h
  split at h
  · rename_i id' d _
    by_cases hid : id = id'
    · subst hid
      refine List.mem_of_mem_erase (a := o) (b := d) ?_
      simpa [State.devices, State.setDevices] using h
    · simpa [State.devices, State.setDevices, hid] using h
  · exact h

theorem count_deleteDownTo {o : Object} {n rounds : Nat} (hnot : o ∉ s.devices id) :
    (deleteDownTo id n rounds s).heap.freed.count o = s.heap.freed.count o := by
  refine (deleteDownTo_invariant
    (P := fun t => o ∉ t.devices id ∧ t.heap.freed.count o = s.heap.freed.count o)
    ?_ ⟨hnot, rfl⟩).2
  rintro t d hd ⟨ho, hcount⟩
  have hne : d ≠ o := fun heq => ho (heq ▸ hd)
  refine ⟨fun hmem => ho (mem_devices_of_objectDelete hmem), ?_⟩
  rw [objectDelete_heap, ← hcount]
  exact List.count_cons_of_ne hne

/-- The devices the driver has not deleted. -/
def Usage.remaining (u : Usage) : List Nat :=
  (List.range u.created.length).filter (· ∉ u.deleted)

theorem Usage.mem_remaining (k : Nat) :
    k ∈ u.remaining ↔ k < u.created.length ∧ k ∉ u.deleted := by
  simp [Usage.remaining]

theorem Tracks.perm (ht : Tracks base id before s u) {deleted : List Nat}
    (hperm : u.deleted.Perm deleted) : Tracks base id before s { u with deleted := deleted } where
  slot := ht.slot
  early := ht.early
  heap := ht.heap
  devices :=
    { ht.devices with
      count := fun k d hk => (ht.devices.count k d hk).trans (hperm.count_eq k)
      deleted := fun k hk => ht.devices.deleted k (hperm.mem_iff.mpr hk) }
  inits := ht.inits
  length := ht.length

/-- Some device of the driver is left just when the vector has grown. -/
theorem Tracks.remaining_eq_nil_iff (ht : Tracks base id before s u) :
    u.remaining = [] ↔ ¬ before.length < (s.devices id).length := by
  have hlen : ¬ before.length < (s.devices id).length ↔
      s.locals.created.filter (· ∉ s.heap.freed) = [] := by
    rw [ht.devices.devices, List.length_append, ← List.length_eq_zero_iff]
    omega
  rw [hlen, List.filter_eq_nil_iff, List.eq_nil_iff_forall_not_mem]
  simp only [Usage.mem_remaining, not_and, not_not, decide_eq_true_eq]
  constructor
  · intro hall d hmem
    obtain ⟨k, hk⟩ := List.mem_iff_getElem?.mp hmem
    have hlt := (List.getElem?_eq_some_iff.mp hk).1
    rw [ht.devices.mem_freed_iff hk]
    exact hall k (ht.length ▸ hlt)
  · intro hall k hk
    rw [← ht.length] at hk
    have hget := List.getElem?_eq_getElem hk
    exact (ht.devices.mem_freed_iff hget).mp (hall _ (List.mem_of_getElem? hget))

theorem objectDelete_devices (hslot : s.driver = some id) (d : Object) :
    (objectDelete s (some d)).devices id = (s.devices id).erase d := by
  simp only [objectDelete, hslot]
  exact setDevices_devices _ _ _

theorem remaining_perm {k : Nat} (hk : k ∈ u.remaining) :
    u.remaining.Perm (k :: ({ u with deleted := k :: u.deleted } : Usage).remaining) := by
  have hnodup : ∀ u : Usage, u.remaining.Nodup := fun u => List.nodup_range.filter _
  have hnot : k ∉ ({ u with deleted := k :: u.deleted } : Usage).remaining := by
    simp [Usage.mem_remaining]
  refine (List.perm_ext_iff_of_nodup (hnodup u) (List.nodup_cons.mpr ⟨hnot, hnodup _⟩)).mpr ?_
  intro j
  rw [List.mem_cons, Usage.mem_remaining, Usage.mem_remaining, List.mem_cons]
  rw [Usage.mem_remaining] at hk
  by_cases hjk : j = k
  · subst hjk
    simp [hk]
  · simp [hjk]

/-- The loop deletes every device that is left. -/
theorem Tracks.deleteDownTo {rounds : Nat} :
    ∀ {s : State} {u : Usage}, Tracks base id before s u → u.driver = true →
      (s.devices id).length ≤ before.length + rounds →
      Tracks base id before (deleteDownTo id before.length rounds s)
        { u with deleted := u.remaining ++ u.deleted } := by
  have hdone : ∀ {s : State} {u : Usage}, Tracks base id before s u →
      ¬ before.length < (s.devices id).length →
      Tracks base id before s { u with deleted := u.remaining ++ u.deleted } := by
    intro s u ht hlen
    rw [ht.remaining_eq_nil_iff.mpr hlen]
    exact ht
  induction rounds with
  | zero =>
    intro s u ht _ hlen
    exact hdone ht (Nat.not_lt.mpr hlen)
  | succ rounds ih =>
    intro s u ht hdriver hlen
    rw [Wdf.deleteDownTo]
    split
    · rename_i hlt
      have hslot := ht.driver_eq hdriver
      -- the device at the back is one of those the driver has created
      have hne : s.locals.created.filter (· ∉ s.heap.freed) ≠ [] := by
        intro hnil
        rw [ht.devices.devices, hnil, List.append_nil] at hlt
        exact Nat.lt_irrefl _ hlt
      obtain ⟨d, hlast⟩ := Option.isSome_iff_exists.mp (List.getLast?_isSome.mpr hne)
      have hback : (s.devices id).getLast? = some d := by
        rw [ht.devices.devices, List.getLast?_append, hlast]
        rfl
      obtain ⟨hmem, hfree⟩ := List.mem_filter.mp (List.mem_of_getLast? hlast)
      obtain ⟨k, hk⟩ := List.mem_iff_getElem?.mp hmem
      have hklt := (List.getElem?_eq_some_iff.mp hk).1
      have hrem : k ∈ u.remaining := by
        rw [Usage.mem_remaining, ← ht.length, ← ht.devices.mem_freed_iff hk]
        exact ⟨hklt, of_decide_eq_true hfree⟩
      have hshort : ((Wdf.objectDelete s (some d)).devices id).length ≤ before.length + rounds := by
        rw [objectDelete_devices hslot, List.length_erase_of_mem (List.mem_of_getLast? hback)]
        omega
      rw [hback]
      refine (ih (ht.objectDelete hk) hdriver hshort).perm ?_
      refine List.perm_middle.trans ?_
      exact ((remaining_perm hrem).append_right u.deleted).symm
    · rename_i hlt
      exact hdone ht hlt

/-! ## The init -/

/-- The init that EvtDriverDeviceAdd was given. -/
structure GivenOk (init : Object) (s : State) (u : Usage) : Prop where
  kind : s.heap.kinds[init]? = some .deviceInit
  other : ∀ k, s.locals.init (.own k) ≠ some init
  var : s.locals.given = if .given ∈ u.created then none else some init
  count : s.heap.freed.count init = if .given ∈ u.created then 1 else 0

theorem givenOk_deviceCreate {init : Object} {var : InitVar} (ht : Tracks base id before s u)
    (hg : GivenOk init s u) (hs : runOp s (.deviceCreate true true var) = some s')
    (hu : u.op (.deviceCreate true true var) = some u') : GivenOk init s' u' := by
  simp only [Usage.op, Bool.and_self, if_true, Option.ite_none_right_eq_some,
    Option.some.injEq] at hu
  obtain ⟨⟨hdriver, hlive⟩, rfl⟩ := hu
  obtain ⟨i, hi, hfree⟩ := (ht.inits.live var).mp hlive
  rw [runOp_deviceCreate (ht.driver_eq hdriver) hi hfree] at hs
  cases hs
  refine ⟨getElem?_allocate.mpr (.inl hg.kind), ?_, ?_, ?_⟩
  · intro k hk
    rw [init_created, init_setNull] at hk
    split at hk
    · cases hk
    · exact hg.other k hk
  · cases var with
    | given => simp [Locals.setNull]
    | own k => simpa [Locals.setNull] using hg.var
  · cases var with
    | given =>
      have hvar : s.locals.given = some i := hi
      have hnot : InitVar.given ∉ u.created := by
        intro hmem
        rw [hg.var, if_pos hmem] at hvar
        cases hvar
      rw [hg.var, if_neg hnot] at hvar
      cases hvar
      have hcount := hg.count
      rw [if_neg hnot] at hcount
      simp [Heap.free, Heap.allocate, hcount]
    | own k =>
      have hne : i ≠ init := fun heq => hg.other k (heq ▸ hi)
      have hcount := hg.count
      simpa [Heap.free, Heap.allocate, List.count_cons_of_ne hne] using hcount

theorem givenOk_step {init : Object} {op : Op} (ht : Tracks base id before s u)
    (hg : GivenOk init s u) (hs : runOp s op = some s') (hu : u.op op = some u') :
    GivenOk init s' u' := by
  cases op with
  | deviceCreate globals allocated var =>
    cases globals with
    | false =>
      cases hs
      cases hu
      exact hg
    | true =>
      cases allocated with
      | false =>
        cases hs
        cases hu
        exact hg
      | true => exact givenOk_deviceCreate ht hg hs hu
  | initAllocate allocated =>
    cases hu
    cases allocated with
    | false =>
      cases hs
      refine ⟨hg.kind, ?_, hg.var, hg.count⟩
      intro k hk
      rw [init_append] at hk
      split at hk
      · cases hk
      · exact hg.other k hk
    | true =>
      cases hs
      refine ⟨getElem?_allocate.mpr (.inl hg.kind), ?_, hg.var, hg.count⟩
      intro k hk
      rw [init_append] at hk
      split at hk
      · cases hk
        exact Nat.lt_irrefl _ (lt_next_of_getElem? hg.kind)
      · exact hg.other k hk
  | initFree k =>
    cases hu
    cases hs
    refine ⟨?_, hg.other, hg.var, ?_⟩
    · cases hk : s.locals.init (.own k) with
      | none => exact hg.kind
      | some i => exact hg.kind
    · cases hk : s.locals.init (.own k) with
      | none => exact hg.count
      | some i =>
        have hne : i ≠ init := fun heq => hg.other k (heq ▸ hk)
        exact (List.count_cons_of_ne hne).trans hg.count
  | objectDelete k =>
    have hcreated : u'.created = u.created := by
      cases hu
      split <;> rfl
    cases hs
    refine ⟨?_, ?_, ?_, ?_⟩
    · rw [objectDelete_heap]
      cases s.locals.created[k]? <;> exact hg.kind
    · rw [objectDelete_locals]
      exact hg.other
    · rw [objectDelete_locals, hcreated]
      exact hg.var
    · rw [objectDelete_heap, hcreated, ← hg.count]
      cases hk : s.locals.created[k]? with
      | none => rfl
      | some d =>
        have hdev := (ht.devices.ids d (List.mem_of_getElem? hk)).2
        exact List.count_cons_of_ne (isDevice_ne_init hdev hg.kind)

theorem given_ops {init : Object} (ht : Tracks base id before s u) (hg : GivenOk init s u)
    (ops : List Op) :
    Option.Rel (fun s u => Tracks base id before s u ∧ GivenOk init s u) (exec runOp s ops)
      (exec Usage.op u ops) := by
  refine exec_rel ?_ ⟨ht, hg⟩
  rintro s u op ⟨ht, hg⟩
  refine rel_imp (track ht op) ?_
  intro s' u' hs hu ht'
  exact ⟨ht', givenOk_step ht hg hs hu⟩

/-! ## After the callback -/

/-- What `_WdfDriverCreate` does when EvtDriverDeviceAdd has returned. -/
def afterDeviceAdd (id : DriverId) (n : Nat) (init : Object) (status : Status) (s : State) :
    State :=
  let s := { s with locals := { s.locals with given := none } }
  if ntSuccess status then s
  else if n < (s.devices id).length then deleteDownTo id n (s.devices id).length s
  else deviceInitFree s (some init)

def Usage.afterDeviceAdd (u : Usage) (status : Status) : Usage :=
  { u with
    live := u.live.erase .given
    deleted := if ntSuccess status then u.deleted else u.remaining ++ u.deleted }

theorem Tracks.forgetGiven (ht : Tracks base id before s u) :
    Tracks base id before { s with locals := { s.locals with given := none } }
      { u with live := u.live.erase .given } :=
  ⟨ht.slot, ht.early, ht.heap, ht.devices, ht.inits.forget .given, ht.length⟩

theorem Tracks.afterDeviceAdd {init : Object} (ht : Tracks base id before s u)
    (hg : GivenOk init s u) (hdriver : u.driver = true) (hinit : base.next ≤ init)
    (status : Status) :
    Tracks base id before (afterDeviceAdd id before.length init status s)
      (u.afterDeviceAdd status) := by
  have hforget := ht.forgetGiven
  unfold Wdf.afterDeviceAdd Usage.afterDeviceAdd
  cases hstatus : ntSuccess status with
  | true => exact hforget
  | false =>
    simp only [Bool.false_eq_true, if_false]
    split
    · exact hforget.deleteDownTo hdriver (Nat.le_add_left _ _)
    · rename_i hlen
      have hnil : u.remaining = [] := hforget.remaining_eq_nil_iff.mpr hlen
      rw [hnil, List.nil_append]
      refine ⟨ht.slot, ht.early, ht.heap.free hinit (lt_next_of_getElem? hg.kind),
        ht.devices.free_init hg.kind, ?_, ht.length⟩
      refine hforget.inits.frame (fun _ hi => hi) ?_ rfl rfl
      -- no variable holds the init any more
      intro v i hv
      have hne : i ≠ init := by
        rintro rfl
        cases v with
        | given => cases hv
        | own k => exact hg.other k hv
      rw [deviceInitFree, Heap.free, List.mem_cons, or_iff_right hne]

theorem count_afterDeviceAdd {init : Object} (ht : Tracks base id before s u)
    (hg : GivenOk init s u) (hinit : init ∉ before) (status : Status) :
    (afterDeviceAdd id before.length init status s).heap.freed.count init =
      (if .given ∈ u.created then 1 else 0) +
        if ntSuccess status = false ∧ u.remaining = [] then 1 else 0 := by
  have hcount : s.heap.freed.count init = if .given ∈ u.created then 1 else 0 := hg.count
  have hdevice : init ∉ s.devices id := by
    rw [ht.devices.devices, List.mem_append, not_or]
    refine ⟨hinit, fun hmem => ?_⟩
    have hdev := (ht.devices.ids init (List.mem_filter.mp hmem).1).2
    exact isDevice_ne_init hdev hg.kind rfl
  unfold afterDeviceAdd
  cases hstatus : ntSuccess status with
  | true => simpa using hcount
  | false =>
    simp only [Bool.false_eq_true, if_false, true_and]
    rw [← hcount]
    split
    · rename_i hlen
      have hrem : u.remaining ≠ [] := fun hnil => ht.remaining_eq_nil_iff.mp hnil hlen
      rw [if_neg hrem]
      exact count_deleteDownTo hdevice
    · rename_i hlen
      rw [if_pos (ht.remaining_eq_nil_iff.mpr hlen)]
      exact List.count_cons_self

/-! ## Every behaviour of the callback -/

/-- Before `_WdfDriverCreate` is called: no driver is set, and the devices of the driver object are
those that are allocated. -/
structure Ready (s : State) (id : DriverId) : Prop where
  driver : s.driver = none
  locals : s.locals = .empty
  allocated : ∀ o ∈ s.heap.freed, o < s.heap.next
  devices : ∀ d, d ∈ s.devices id ↔ s.heap.isDevice d ∧ d ∉ s.heap.freed
  once : ∀ d, s.heap.isDevice d → s.heap.freed.count d ≤ 1

/-- The state in which EvtDriverDeviceAdd is called. -/
def deviceAddState (s : State) (id : DriverId) (config : DriverConfig) : State :=
  { s with
    driver := some id
    drivers := Function.update s.drivers id { s.drivers id with config := config }
    heap := s.heap.allocate .deviceInit
    locals := { s.locals with given := some s.heap.next } }

/-- The driver has made no call. -/
def Usage.entry : Usage where
  driver := false
  live := []
  own := 0
  created := []
  deleted := []

/-- EvtDriverDeviceAdd is called. -/
def Usage.deviceAdd (u : Usage) : Usage :=
  { u with driver := true, live := .given :: u.live }

/-- A module that has just been loaded. -/
theorem tracks_entry (hdriver : s.driver = none) (hlocals : s.locals = .empty)
    (hallocated : ∀ o ∈ s.heap.freed, o < s.heap.next)
    (hbefore : ∀ d ∈ s.devices id, d < s.heap.next) :
    Tracks s.heap id (s.devices id) s .entry := by
  have hinit : ∀ v, s.locals.init v = none := by
    intro v
    rw [hlocals]
    cases v <;> rfl
  refine ⟨hdriver, fun _ => rfl, ⟨List.prefix_rfl, fun _ _ => rfl, hallocated⟩, ?_, ?_, ?_⟩
  · rw [hlocals]
    refine ⟨hbefore, ?_, ?_, List.nodup_nil, ?_, ?_, ?_⟩
    · exact fun d hd => absurd hd List.not_mem_nil
    · exact fun d hd => .inl (lt_next_of_getElem? hd)
    · intro k d hk
      cases hk
    · exact fun k hk => absurd hk List.not_mem_nil
    · exact (List.append_nil _).symm
  · refine ⟨?_, ?_, ?_, List.nodup_nil, ?_⟩
    · intro v i hv
      rw [hinit] at hv
      cases hv
    · intro v w i hv
      rw [hinit] at hv
      cases hv
    · rw [hlocals]
      rfl
    · simp [hinit, Usage.entry]
  · rw [hlocals]
    rfl

theorem Ready.tracks (hr : Ready s id) : Tracks s.heap id (s.devices id) s .entry := by
  refine tracks_entry hr.driver hr.locals hr.allocated ?_
  exact fun d hd => lt_next_of_getElem? ((hr.devices d).mp hd).1

theorem Tracks.deviceAdd (ht : Tracks base id before s u) (hgiven : s.locals.given = none)
    (config : DriverConfig) :
    Tracks base id before (deviceAddState s id config) u.deviceAdd := by
  refine ⟨rfl, ?_, ht.heap.allocate _, ?_, ?_, ht.length⟩
  · intro hdriver
    cases hdriver
  · simpa [deviceAddState, State.devices, Usage.deviceAdd] using ht.devices.allocate_init
  · refine ht.inits.store ht.heap hgiven ?_ ht.inits.own
    intro v
    cases v <;> rfl

theorem Tracks.given (ht : Tracks base id before s u) (hcreated : u.created = [])
    (config : DriverConfig) : GivenOk s.heap.next (deviceAddState s id config) u.deviceAdd where
  kind := getElem?_allocate.mpr (.inr ⟨rfl, rfl⟩)
  other := by
    intro k hk
    have hlt := lt_next_of_getElem? (ht.inits.kinds (.own k) _ hk).2
    exact Nat.lt_irrefl _ hlt
  var := by simp [deviceAddState, Usage.deviceAdd, hcreated]
  count := by
    have hcount : s.heap.freed.count s.heap.next = 0 :=
      List.count_eq_zero.mpr ht.heap.next_not_mem
    simpa [deviceAddState, Usage.deviceAdd, hcreated, Heap.allocate] using hcount

/-- The callback runs, and `_WdfDriverCreate` cleans up. -/
theorem driverCreate_eq {config : DriverConfig} {deviceAdd : DeviceAdd} (hdriver : s.driver = none)
    (hadd : config.evtDriverDeviceAdd = some deviceAdd) :
    driverCreate s id true true config =
      (exec runOp (deviceAddState s id config) deviceAdd.ops).map fun t =>
        (afterDeviceAdd id (s.devices id).length s.heap.next deviceAdd.status t,
          deviceAdd.status) := by
  have hstate : (deviceAddState s id config).devices id = s.devices id := by
    simp [deviceAddState, State.devices]
  simp only [driverCreate, hdriver, hadd, controlDeviceInitAllocate, Bool.not_true,
    Bool.false_eq_true, if_false, if_true, Option.isSome_none]
  change (exec runOp (deviceAddState s id config) deviceAdd.ops).bind _ = _
  cases exec runOp (deviceAddState s id config) deviceAdd.ops with
  | none => rfl
  | some t =>
    simp only [Option.bind_some, Option.map_some, afterDeviceAdd]
    rw [← hstate]
    split
    · rfl
    · split
      · rename_i hlen
        exact congrArg some (Prod.ext (if_pos hlen).symm rfl)
      · rename_i hlen
        exact congrArg some (Prod.ext (if_neg hlen).symm rfl)

/-- What is expected of `_WdfDriverCreate` once it has called EvtDriverDeviceAdd. -/
structure DeviceAddOk (s s' : State) (id : DriverId) (init : Object) (status : Status) : Prop where
  initFreedOnce : s'.heap.freed.count init = 1
  devicesFreedOnce : ∀ d, s'.heap.isDevice d → s'.heap.freed.count d ≤ 1
  failureRestores : ntSuccess status = false → s'.devices id = s.devices id
  devicesAllocated : ∀ d, d ∈ s'.devices id ↔ s'.heap.isDevice d ∧ d ∉ s'.heap.freed

/-- The callback creates devices from inits it holds, deletes no device twice, and the given init is
used if it succeeds, and also if it fails with a device left, but not if it fails with none. -/
structure Owns (deviceAdd : DeviceAdd) (u : Usage) : Prop where
  valid : exec Usage.op Usage.entry.deviceAdd deviceAdd.ops = some u
  deletedOnce : u.deleted.Nodup
  success : ntSuccess deviceAdd.status = true → .given ∈ u.created
  failure : ntSuccess deviceAdd.status = false → (.given ∈ u.created ↔ u.remaining ≠ [])

theorem Usage.nodup_remaining_append_iff (u : Usage) :
    (u.remaining ++ u.deleted).Nodup ↔ u.deleted.Nodup := by
  have hnodup : u.remaining.Nodup := List.nodup_range.filter _
  rw [List.nodup_append]
  constructor
  · exact fun h => h.2.1
  · refine fun h => ⟨hnodup, h, ?_⟩
    rintro k hk k' hk' rfl
    exact ((u.mem_remaining k).mp hk).2 hk'

theorem Usage.afterDeviceAdd_nodup_iff (u : Usage) (status : Status) :
    (u.afterDeviceAdd status).deleted.Nodup ↔ u.deleted.Nodup := by
  unfold Usage.afterDeviceAdd
  split
  · rfl
  · exact u.nodup_remaining_append_iff

theorem Tracks.devices_of_remaining (ht : Tracks base id before s u) (hrem : u.remaining = []) :
    s.devices id = before := by
  have hlen := ht.remaining_eq_nil_iff.mp hrem
  rw [ht.devices.devices, List.length_append] at hlen
  have hnil : s.locals.created.filter (· ∉ s.heap.freed) = [] :=
    List.length_eq_zero_iff.mp (by omega)
  rw [ht.devices.devices, hnil, List.append_nil]

/-- Once the devices that are left have been deleted, none is left. -/
theorem Usage.remaining_nil (u : Usage) :
    ({ u with deleted := u.remaining ++ u.deleted } : Usage).remaining = [] := by
  refine List.eq_nil_iff_forall_not_mem.mpr ?_
  intro k hk
  rw [Usage.mem_remaining, List.mem_append, not_or, Usage.mem_remaining] at hk
  exact hk.2.1 ⟨hk.1, hk.2.2⟩

/-- A callback that fails leaves no device. -/
theorem Usage.remaining_of_failure (u : Usage) {status : Status}
    (hstatus : ntSuccess status = false) : (u.afterDeviceAdd status).remaining = [] := by
  rw [Usage.afterDeviceAdd, hstatus, if_neg Bool.false_ne_true]
  exact u.remaining_nil

theorem deviceAddOk_iff {t : State} (hr : Ready s id)
    (ht : Tracks s.heap id (s.devices id) t u) (hg : GivenOk s.heap.next t u)
    (hdriver : u.driver = true) (status : Status) :
    DeviceAddOk s (afterDeviceAdd id (s.devices id).length s.heap.next status t) id s.heap.next
        status ↔
      u.deleted.Nodup ∧ (ntSuccess status = true → .given ∈ u.created) ∧
        (ntSuccess status = false → (.given ∈ u.created ↔ u.remaining ≠ [])) := by
  have hafter := ht.afterDeviceAdd hg hdriver (Nat.le_refl _) status
  have hinit : s.heap.next ∉ s.devices id :=
    fun hmem => Nat.lt_irrefl _ (ht.devices.before_lt _ hmem)
  have hcount := count_afterDeviceAdd ht hg hinit status
  have honce := hafter.devices.count_le_one_iff hafter.heap hr.once
  rw [Usage.afterDeviceAdd_nodup_iff] at honce
  have hinitOnce : (afterDeviceAdd id (s.devices id).length s.heap.next status t).heap.freed.count
        s.heap.next = 1 ↔
      (ntSuccess status = true → .given ∈ u.created) ∧
        (ntSuccess status = false → (.given ∈ u.created ↔ u.remaining ≠ [])) := by
    rw [hcount]
    by_cases hgiven : InitVar.given ∈ u.created
    · cases ntSuccess status <;> simp [hgiven]
    · cases ntSuccess status <;> simp [hgiven]
  constructor
  · intro h
    exact ⟨honce.mp h.devicesFreedOnce, hinitOnce.mp h.initFreedOnce⟩
  · intro h
    refine ⟨hinitOnce.mpr h.2, honce.mpr h.1, ?_, ?_⟩
    · intro hstatus
      exact hafter.devices_of_remaining (u.remaining_of_failure hstatus)
    · exact hafter.devices.mem_devices_iff hafter.heap hr.devices

theorem usage_driver {ops : List Op} (h : exec Usage.op u ops = some u') :
    u'.driver = u.driver := by
  refine exec_invariant (P := fun v => v.driver = u.driver) ?_ rfl h
  intro v op v' hv hop
  rw [← hv]
  cases op with
  | deviceCreate globals allocated init =>
    simp only [Usage.op] at hop
    split at hop
    · split at hop
      · cases hop
        rfl
      · cases hop
    · cases hop
      rfl
  | initAllocate allocated =>
    cases hop
    rfl
  | initFree k =>
    cases hop
    rfl
  | objectDelete k =>
    cases hop
    split <;> rfl

/-- Over a call of EvtDriverDeviceAdd the init is freed once, no device is freed twice, a failure
leaves the vector as it was, and the vector holds the devices that are allocated, just when the
driver owns its handles. -/
theorem device_init_freed_once (s : State) (id : DriverId) (config : DriverConfig)
    (deviceAdd : DeviceAdd) (hr : Ready s id)
    (hadd : config.evtDriverDeviceAdd = some deviceAdd) :
    (∃ s', driverCreate s id true true config = some (s', deviceAdd.status) ∧
      DeviceAddOk s s' id s.heap.next deviceAdd.status) ↔ ∃ u, Owns deviceAdd u := by
  rw [driverCreate_eq hr.driver hadd]
  have hgiven : s.locals.given = none := by
    rw [hr.locals]
    rfl
  have hrun := given_ops (hr.tracks.deviceAdd hgiven config) (hr.tracks.given rfl config)
    deviceAdd.ops
  generalize hs : exec runOp (deviceAddState s id config) deviceAdd.ops = x at hrun ⊢
  generalize hu : exec Usage.op Usage.entry.deviceAdd deviceAdd.ops = y at hrun
  cases hrun with
  | none =>
    constructor
    · rintro ⟨s', h, -⟩
      cases h
    · rintro ⟨u, h⟩
      have hvalid := h.valid
      rw [hu] at hvalid
      cases hvalid
  | @some t u h =>
    have hok := deviceAddOk_iff hr h.1 h.2 (usage_driver hu) deviceAdd.status
    constructor
    · rintro ⟨s', hs', h'⟩
      cases hs'
      obtain ⟨honce, hsuccess, hfailure⟩ := hok.mp h'
      exact ⟨u, hu, honce, hsuccess, hfailure⟩
    · rintro ⟨u₁, h₁⟩
      have hvalid := h₁.valid
      rw [hu] at hvalid
      cases hvalid
      exact ⟨_, rfl, hok.mpr ⟨h₁.deletedOnce, h₁.success, h₁.failure⟩⟩

theorem ready_init (id : DriverId) : Ready .init id := by
  constructor <;> simp [State.init, State.devices, DriverObject.zero, Heap.isDevice]

/-- A callback that creates a device and an own control device, and fails: the framework deletes
both devices, and the init was freed when the first was created. -/
def failsAfterCreate : DeviceAdd where
  ops := [.deviceCreate true true .given, .initAllocate true, .deviceCreate true true (.own 0)]
  status := 0xC0000001

theorem device_init_freed_once_failsAfterCreate :
    ∃ s', driverCreate .init 0 true true ⟨some failsAfterCreate, none⟩ =
        some (s', failsAfterCreate.status) ∧
      DeviceAddOk .init s' 0 0 failsAfterCreate.status :=
  (device_init_freed_once .init 0 ⟨some failsAfterCreate, none⟩ failsAfterCreate (ready_init 0)
    rfl).mpr ⟨_, rfl, by decide, by decide, by decide⟩

/-- A callback that deletes its device again and fails: the init is freed a second time. One that
succeeds without a device: the init is not freed. -/
theorem init_freed_twice_or_never :
    (∃ s', driverCreate .init 0 true true
        ⟨some ⟨[.deviceCreate true true .given, .objectDelete 0], 0xC0000001⟩, none⟩ =
          some (s', 0xC0000001) ∧ s'.heap.freed.count 0 = 2) ∧
      ∃ s', driverCreate .init 0 true true ⟨some ⟨[], statusSuccess⟩, none⟩ =
          some (s', statusSuccess) ∧ s'.heap.freed.count 0 = 0 :=
  ⟨⟨_, rfl, by decide⟩, ⟨_, rfl, by decide⟩⟩

end Usersim.Wdf
