import Mathlib.Data.List.Nodup
import Usersim.Wdf.Basic

/-!
# What a driver does with its handles

A `Usage` follows the calls of a driver without the objects: which of its variables hold an init
that a device can be created from, which devices it has created and which of them it has deleted.
The calls of the driver go wrong just when the usage does (`track`), and the usage says how often
each device was freed and which of them are left in the vector.
-/

namespace Usersim.Wdf

open Lib

/-- The calls a driver has made. -/
structure Usage where
  /-- The global slot is set. -/
  driver : Bool
  /-- The variables that hold an init which is still allocated. -/
  live : List InitVar
  /-- How many inits it has asked for. -/
  own : Nat
  /-- The inits its devices were created from. -/
  created : List InitVar
  /-- The devices that were deleted, by number. -/
  deleted : List Nat
deriving DecidableEq, Repr

def Usage.op (u : Usage) : Op → Option Usage
  | .deviceCreate globals allocated init =>
    if globals && allocated then
      if u.driver = true ∧ init ∈ u.live then
        some { u with live := u.live.erase init, created := u.created ++ [init] }
      else none
    else some u
  | .initAllocate allocated =>
    some { u with
      own := u.own + 1
      live := if allocated then .own u.own :: u.live else u.live }
  | .initFree k => some { u with live := u.live.erase (.own k) }
  | .objectDelete k =>
    some (if k < u.created.length then { u with deleted := k :: u.deleted } else u)

variable {base h : Heap} {o : Object}

/-! ## The heap -/

/-- The objects that were there before are left alone. -/
structure HeapOk (base h : Heap) : Prop where
  kinds : base.kinds <+: h.kinds
  old : ∀ o, o < base.next → h.freed.count o = base.freed.count o
  allocated : ∀ o ∈ h.freed, o < h.next

theorem HeapOk.allocate (hh : HeapOk base h) (kind : Kind) : HeapOk base (h.allocate kind) where
  kinds := hh.kinds.trans (List.prefix_append _ _)
  old := hh.old
  allocated := by
    intro o ho
    refine Nat.lt_of_lt_of_le (hh.allocated o ho) ?_
    simp [Heap.next, Heap.allocate]

theorem HeapOk.free (hh : HeapOk base h) (hnew : base.next ≤ o) (hlt : o < h.next) :
    HeapOk base (h.free (some o)) where
  kinds := hh.kinds
  old := by
    intro o' ho'
    have hne : o ≠ o' := (Nat.ne_of_lt (Nat.lt_of_lt_of_le ho' hnew)).symm
    rw [← hh.old o' ho']
    exact List.count_cons_of_ne hne
  allocated := by
    intro o' ho'
    rcases List.mem_cons.mp ho' with rfl | ho'
    · exact hlt
    · exact hh.allocated o' ho'

theorem HeapOk.next_le (hh : HeapOk base h) : base.next ≤ h.next :=
  hh.kinds.length_le

theorem HeapOk.next_not_mem (hh : HeapOk base h) : h.next ∉ h.freed :=
  fun hmem => Nat.lt_irrefl _ (hh.allocated _ hmem)

theorem lt_next_of_getElem? {kind : Kind} (ho : h.kinds[o]? = some kind) : o < h.next := by
  obtain ⟨hlt, -⟩ := List.getElem?_eq_some_iff.mp ho
  exact hlt

theorem getElem?_allocate {kind kind' : Kind} :
    (h.allocate kind').kinds[o]? = some kind ↔
      h.kinds[o]? = some kind ∨ (o = h.next ∧ kind' = kind) := by
  rw [Heap.allocate, List.getElem?_append]
  split
  · rename_i hlt
    have hne : o ≠ h.next := Nat.ne_of_lt hlt
    simp [hne]
  · rename_i hge
    have hnone : h.kinds[o]? = none := List.getElem?_eq_none (by omega)
    rw [hnone, List.getElem?_singleton]
    by_cases heq : o = h.next
    · simp [heq, Heap.next]
    · have hgt : h.kinds.length < o := Nat.lt_of_le_of_ne (Nat.not_lt.mp hge) (Ne.symm heq)
      simp [heq, Nat.sub_ne_zero_of_lt hgt]

theorem isDevice_ne_init {d : Object} (hdev : h.isDevice d)
    (hinit : h.kinds[o]? = some .deviceInit) : d ≠ o := by
  rintro rfl
  rw [Heap.isDevice, hinit] at hdev
  cases hdev

/-! ## Devices -/

/-- The devices of a driver: `before` are those it had at first, `created` the new ones. -/
structure DevicesOk (base : Heap) (before : List Object) (h : Heap) (devices created : List Object)
    (deleted : List Nat) : Prop where
  before_lt : ∀ d ∈ before, d < base.next
  ids : ∀ d ∈ created, base.next ≤ d ∧ h.isDevice d
  complete : ∀ d, h.isDevice d → d < base.next ∨ d ∈ created
  nodup : created.Nodup
  count : ∀ k d, created[k]? = some d → h.freed.count d = deleted.count k
  deleted : ∀ k ∈ deleted, k < created.length
  devices : devices = before ++ created.filter (· ∉ h.freed)

section Devices

variable {before devices created : List Object} {deleted : List Nat}

theorem DevicesOk.allocate_init (hd : DevicesOk base before h devices created deleted) :
    DevicesOk base before (h.allocate .deviceInit) devices created deleted where
  before_lt := hd.before_lt
  ids := fun d hmem => ⟨(hd.ids d hmem).1, getElem?_allocate.mpr (.inl (hd.ids d hmem).2)⟩
  complete := by
    intro d hdev
    rcases getElem?_allocate.mp hdev with hdev | ⟨-, hkind⟩
    · exact hd.complete d hdev
    · cases hkind
  nodup := hd.nodup
  count := hd.count
  deleted := hd.deleted
  devices := hd.devices

theorem DevicesOk.free_init (hd : DevicesOk base before h devices created deleted)
    (hinit : h.kinds[o]? = some .deviceInit) :
    DevicesOk base before (h.free (some o)) devices created deleted where
  before_lt := hd.before_lt
  ids := hd.ids
  complete := hd.complete
  nodup := hd.nodup
  count := by
    intro k d hk
    have hne := isDevice_ne_init (hd.ids d (List.mem_of_getElem? hk)).2 hinit
    rw [← hd.count k d hk]
    exact List.count_cons_of_ne hne.symm
  deleted := hd.deleted
  devices := by
    rw [hd.devices]
    refine congrArg _ (List.filter_congr ?_)
    intro d hmem
    have hne := isDevice_ne_init (hd.ids d hmem).2 hinit
    simp [Heap.free, hne]

theorem DevicesOk.create (hh : HeapOk base h)
    (hd : DevicesOk base before h devices created deleted) :
    DevicesOk base before (h.allocate .device) (devices ++ [h.next]) (created ++ [h.next])
      deleted where
  before_lt := hd.before_lt
  ids := by
    intro d hmem
    rcases List.mem_append.mp hmem with hmem | hmem
    · exact ⟨(hd.ids d hmem).1, getElem?_allocate.mpr (.inl (hd.ids d hmem).2)⟩
    · rw [List.mem_singleton.mp hmem]
      exact ⟨hh.next_le, getElem?_allocate.mpr (.inr ⟨rfl, rfl⟩)⟩
  complete := by
    intro d hdev
    rcases getElem?_allocate.mp hdev with hdev | ⟨rfl, -⟩
    · exact (hd.complete d hdev).imp_right (List.mem_append_left _)
    · exact .inr (List.mem_append_right _ (List.mem_singleton_self _))
  nodup := by
    refine List.nodup_append.mpr ⟨hd.nodup, List.nodup_singleton _, ?_⟩
    intro d hmem d' hmem'
    rw [List.mem_singleton.mp hmem']
    exact Nat.ne_of_lt (lt_next_of_getElem? (hd.ids d hmem).2)
  count := by
    intro k d hk
    rw [List.getElem?_append] at hk
    split at hk
    · exact hd.count k d hk
    · rename_i hge
      rw [List.getElem?_singleton] at hk
      split at hk
      · cases hk
        have hzero : deleted.count k = 0 := by
          refine List.count_eq_zero.mpr fun hmem => ?_
          exact hge (hd.deleted k hmem)
        rw [hzero]
        exact List.count_eq_zero.mpr hh.next_not_mem
      · cases hk
  deleted := by
    intro k hk
    rw [List.length_append]
    exact Nat.lt_add_right _ (hd.deleted k hk)
  devices := by
    have hnext : [h.next].filter (· ∉ h.freed) = [h.next] := by
      simp [hh.next_not_mem]
    rw [hd.devices, List.append_assoc]
    change _ = before ++ (created ++ [h.next]).filter (· ∉ h.freed)
    rw [List.filter_append, hnext]

theorem DevicesOk.delete (hd : DevicesOk base before h devices created deleted) {k : Nat}
    (hk : created[k]? = some o) :
    DevicesOk base before (h.free (some o)) (devices.erase o) created (k :: deleted) where
  before_lt := hd.before_lt
  ids := hd.ids
  complete := hd.complete
  nodup := hd.nodup
  count := by
    intro k' d hk'
    obtain ⟨hlt, hget⟩ := List.getElem?_eq_some_iff.mp hk
    obtain ⟨hlt', hget'⟩ := List.getElem?_eq_some_iff.mp hk'
    have hiff : o = d ↔ k = k' := by
      rw [← hget, ← hget', hd.nodup.getElem_inj_iff]
    simp only [Heap.free, List.count_cons, hd.count k' d hk', beq_iff_eq, hiff]
  deleted := by
    intro k' hk'
    rcases List.mem_cons.mp hk' with rfl | hk'
    · exact (List.getElem?_eq_some_iff.mp hk).1
    · exact hd.deleted k' hk'
  devices := by
    have hbefore : o ∉ before := by
      intro hmem
      have hge := (hd.ids o (List.mem_of_getElem? hk)).1
      exact Nat.not_lt.mpr hge (hd.before_lt o hmem)
    rw [hd.devices, List.erase_append_right _ hbefore, (hd.nodup.filter _).erase_eq_filter,
      List.filter_filter]
    refine congrArg _ (List.filter_congr ?_)
    intro d _
    simp [Heap.free, bne, beq_eq_decide]

end Devices

/-! ## Inits -/

/-- The variables of a driver hold inits of their own, all of them new. -/
structure InitsOk (base h : Heap) (l : Locals) (live : List InitVar) (own : Nat) : Prop where
  kinds : ∀ v i, l.init v = some i → base.next ≤ i ∧ h.kinds[i]? = some .deviceInit
  injective : ∀ v w i, l.init v = some i → l.init w = some i → v = w
  own : l.own.length = own
  nodup : live.Nodup
  live : ∀ v, v ∈ live ↔ ∃ i, l.init v = some i ∧ i ∉ h.freed

section Inits

variable {h' : Heap} {l l' : Locals} {live : List InitVar} {own : Nat} {v : InitVar}

theorem init_setNull (l : Locals) (v w : InitVar) :
    (l.setNull v).init w = if w = v then none else l.init w := by
  cases v with
  | given => cases w <;> simp [Locals.setNull, Locals.init]
  | own k =>
    cases w with
    | given => simp [Locals.setNull, Locals.init]
    | own j =>
      by_cases hjk : j = k
      · subst hjk
        by_cases hlt : j < l.own.length <;> simp [Locals.setNull, Locals.init, hlt]
      · simp [Locals.setNull, Locals.init, hjk, List.getElem?_set_ne (Ne.symm hjk)]

theorem init_append (l : Locals) (x : Option Object) (v : InitVar) :
    ({ l with own := l.own ++ [x] } : Locals).init v =
      if v = .own l.own.length then x else l.init v := by
  cases v with
  | given => rfl
  | own k =>
    rcases Nat.lt_trichotomy k l.own.length with hlt | rfl | hgt
    · simp [Locals.init, List.getElem?_append_left hlt, Nat.ne_of_lt hlt]
    · simp [Locals.init]
    · have hne : k ≠ l.own.length := (Nat.ne_of_lt hgt).symm
      simp [Locals.init, List.getElem?_append, Nat.not_lt_of_gt hgt, hne,
        Nat.sub_ne_zero_of_lt hgt]

@[simp] theorem init_created (l : Locals) (created : List Object) :
    ({ l with created := created } : Locals).init = l.init := by
  funext v
  cases v <;> rfl

theorem own_length_setNull (l : Locals) (v : InitVar) :
    (l.setNull v).own.length = l.own.length := by
  cases v with
  | given => rfl
  | own k => exact List.length_set

/-- Nothing happens to inits. -/
theorem InitsOk.frame (hi : InitsOk base h l live own)
    (hkinds : ∀ i : Object, h.kinds[i]? = some .deviceInit → h'.kinds[i]? = some .deviceInit)
    (hfreed : ∀ v i, l.init v = some i → (i ∈ h'.freed ↔ i ∈ h.freed))
    (hinit : l'.init = l.init) (hown : l'.own = l.own) : InitsOk base h' l' live own where
  kinds := by
    intro v i hv
    rw [hinit] at hv
    exact ⟨(hi.kinds v i hv).1, hkinds i (hi.kinds v i hv).2⟩
  injective := by
    rw [hinit]
    exact hi.injective
  own := by rw [hown, hi.own]
  live := by
    intro v
    rw [hi.live, hinit]
    refine exists_congr fun i => and_congr_right fun hv => not_congr ?_
    exact (hfreed v i hv).symm
  nodup := hi.nodup

/-- The init of one variable is freed; the variable may be nulled. -/
theorem InitsOk.release (hi : InitsOk base h l live own) (hv : l.init v = some o)
    (hsame : ∀ w, w ≠ v → l'.init w = l.init w) (hself : l'.init v = none ∨ l'.init v = some o)
    (hown : l'.own.length = l.own.length) :
    InitsOk base (h.free (some o)) l' (live.erase v) own := by
  have hsub : ∀ w i, l'.init w = some i → l.init w = some i := by
    intro w i hw
    by_cases hwv : w = v
    · subst hwv
      rcases hself with hnull | hsome
      · rw [hnull] at hw
        cases hw
      · rw [hv, ← hsome, hw]
    · rw [← hsame w hwv, hw]
  constructor
  · exact fun w i hw => hi.kinds w i (hsub w i hw)
  · exact fun w w' i hw hw' => hi.injective w w' i (hsub w i hw) (hsub w' i hw')
  · rw [hown, hi.own]
  · exact hi.nodup.erase v
  · intro w
    rw [hi.nodup.mem_erase_iff, hi.live]
    constructor
    · rintro ⟨hwv, i, hw, hfree⟩
      refine ⟨i, by rw [hsame w hwv, hw], ?_⟩
      rw [Heap.free, List.mem_cons, not_or]
      refine ⟨?_, hfree⟩
      rintro rfl
      exact hwv (hi.injective w v i hw hv)
    · rintro ⟨i, hw, hfree⟩
      rw [Heap.free, List.mem_cons, not_or] at hfree
      refine ⟨?_, i, hsub w i hw, hfree.2⟩
      rintro rfl
      have hio := (hsub w i hw).symm.trans hv
      exact hfree.1 (Option.some.inj hio)

/-- A variable is nulled. -/
theorem InitsOk.forget (hi : InitsOk base h l live own) (v : InitVar) :
    InitsOk base h (l.setNull v) (live.erase v) own := by
  constructor
  · intro w i hw
    rw [init_setNull] at hw
    split at hw
    · cases hw
    · exact hi.kinds w i hw
  · intro w w' i hw hw'
    rw [init_setNull] at hw hw'
    split at hw
    · cases hw
    · split at hw'
      · cases hw'
      · exact hi.injective w w' i hw hw'
  · rw [own_length_setNull, hi.own]
  · exact hi.nodup.erase v
  · intro w
    rw [hi.nodup.mem_erase_iff, hi.live, init_setNull]
    by_cases hwv : w = v
    · simp [hwv]
    · simp [hwv]

theorem InitsOk.erase_null (hi : InitsOk base h l live own) (hv : l.init v = none) :
    live.erase v = live := by
  refine List.erase_of_not_mem ?_
  rw [hi.live, hv]
  rintro ⟨i, hw, -⟩
  cases hw

/-- A variable that held nothing gets a new init. -/
theorem InitsOk.store {own' : Nat} (hi : InitsOk base h l live own) (hh : HeapOk base h)
    (hnull : l.init v = none)
    (hinit : ∀ w, l'.init w = if w = v then some h.next else l.init w)
    (hown : l'.own.length = own') :
    InitsOk base (h.allocate .deviceInit) l' (v :: live) own' := by
  have hold : ∀ w i, l.init w = some i → i ≠ h.next := by
    intro w i hw
    exact Nat.ne_of_lt (lt_next_of_getElem? (hi.kinds w i hw).2)
  constructor
  · intro w i hw
    rw [hinit] at hw
    split at hw
    · cases hw
      exact ⟨hh.next_le, getElem?_allocate.mpr (.inr ⟨rfl, rfl⟩)⟩
    · exact ⟨(hi.kinds w i hw).1, getElem?_allocate.mpr (.inl (hi.kinds w i hw).2)⟩
  · intro w w' i hw hw'
    rw [hinit] at hw hw'
    split at hw
    · rename_i hwv
      split at hw'
      · rename_i hwv'
        rw [hwv, hwv']
      · cases hw
        exact absurd rfl (hold w' _ hw')
    · split at hw'
      · cases hw'
        exact absurd rfl (hold w _ hw)
      · exact hi.injective w w' i hw hw'
  · exact hown
  · refine List.nodup_cons.mpr ⟨?_, hi.nodup⟩
    rw [hi.live, hnull]
    rintro ⟨i, hw, -⟩
    cases hw
  · intro w
    rw [List.mem_cons, hi.live, hinit]
    by_cases hw : w = v
    · simp only [hw, true_or, if_true, true_iff]
      exact ⟨h.next, rfl, hh.next_not_mem⟩
    · simp only [hw, false_or, if_false]
      rfl

theorem init_own_length (l : Locals) : l.init (.own l.own.length) = none := by
  rw [Locals.init, List.getElem?_eq_none (Nat.le_refl _)]
  rfl

/-- A further variable that holds a new init, or null. -/
theorem InitsOk.allocate (hi : InitsOk base h l live own) (hh : HeapOk base h) :
    InitsOk base (h.allocate .deviceInit) { l with own := l.own ++ [some h.next] }
      (.own own :: live) (own + 1) := by
  rw [← hi.own]
  refine hi.store hh (init_own_length l) (init_append l _) ?_
  exact List.length_append

theorem InitsOk.append_null (hi : InitsOk base h l live own) :
    InitsOk base h { l with own := l.own ++ [none] } live (own + 1) := by
  have hsame : ({ l with own := l.own ++ [none] } : Locals).init = l.init := by
    funext w
    rw [init_append]
    split
    · rename_i hw
      rw [hw, init_own_length]
    · rfl
  constructor
  · rw [hsame]
    exact hi.kinds
  · rw [hsame]
    exact hi.injective
  · simp [hi.own]
  · exact hi.nodup
  · rw [hsame]
    exact hi.live

end Inits

/-! ## The calls of a driver -/

/-- The state of a driver and its usage. -/
structure Tracks (base : Heap) (id : DriverId) (before : List Object) (s : State) (u : Usage) :
    Prop where
  slot : s.driver = if u.driver then some id else none
  early : u.driver = false → u.created = []
  heap : HeapOk base s.heap
  devices : DevicesOk base before s.heap (s.devices id) s.locals.created u.deleted
  inits : InitsOk base s.heap s.locals u.live u.own
  length : s.locals.created.length = u.created.length

@[simp] theorem setDevices_devices (s : State) (id : DriverId) (devices : List Object) :
    (s.setDevices id devices).devices id = devices := by
  simp [State.setDevices, State.devices]

@[simp] theorem objectDelete_heap (s : State) (o : Option Object) :
    (objectDelete s o).heap = s.heap.free o := by
  unfold objectDelete
  split <;> rfl

@[simp] theorem objectDelete_locals (s : State) (o : Option Object) :
    (objectDelete s o).locals = s.locals := by
  unfold objectDelete
  split <;> rfl

section Calls

variable {id : DriverId} {before : List Object} {s : State} {u : Usage} {var : InitVar} {i : Object}

theorem Tracks.driver_eq (ht : Tracks base id before s u) (hdriver : u.driver = true) :
    s.driver = some id := by
  rw [ht.slot, hdriver]
  rfl

theorem runOp_deviceCreate (hslot : s.driver = some id) (hi : s.locals.init var = some i)
    (hfree : i ∉ s.heap.freed) :
    runOp s (.deviceCreate true true var) =
      some { s.setDevices id (s.devices id ++ [s.heap.next]) with
        heap := (s.heap.allocate .device).free (some i)
        locals := { s.locals.setNull var with created := s.locals.created ++ [s.heap.next] } } := by
  simp only [runOp, Wdf.deviceCreate, Bool.not_true, Bool.false_eq_true, if_false, hslot, hi,
    if_neg hfree, Option.map_some]
  rfl

/-- The device is in the vector, and the init is freed. -/
theorem Tracks.created (ht : Tracks base id before s u) (hdriver : u.driver = true)
    (hi : s.locals.init var = some i) :
    Tracks base id before
      { s.setDevices id (s.devices id ++ [s.heap.next]) with
        heap := (s.heap.allocate .device).free (some i)
        locals := { s.locals.setNull var with created := s.locals.created ++ [s.heap.next] } }
      { u with live := u.live.erase var, created := u.created ++ [var] } := by
  have hkind := ht.inits.kinds var i hi
  have hnext : i < (s.heap.allocate .device).next := by
    refine Nat.lt_of_lt_of_le (lt_next_of_getElem? hkind.2) ?_
    simp [Heap.next, Heap.allocate]
  have hinits : InitsOk base (s.heap.allocate .device) s.locals u.live u.own :=
    ht.inits.frame (fun j hj => getElem?_allocate.mpr (.inl hj)) (fun _ _ _ => Iff.rfl) rfl rfl
  refine ⟨ht.slot, ?_, (ht.heap.allocate .device).free hkind.1 hnext, ?_, ?_, ?_⟩
  · intro hnone
    rw [hdriver] at hnone
    cases hnone
  · have hcreate := ht.devices.create ht.heap
    have hfreed := hcreate.free_init (o := i) (getElem?_allocate.mpr (.inl hkind.2))
    simpa [State.devices, State.setDevices] using hfreed
  · refine hinits.release hi ?_ (.inl ?_) (own_length_setNull _ _)
    · intro w hw
      rw [init_created, init_setNull, if_neg hw]
    · rw [init_created, init_setNull, if_pos rfl]
  · simp [ht.length]

/-- There is no driver, or the variable holds nothing that a device can be created from. -/
theorem Tracks.deviceCreate_eq_none (ht : Tracks base id before s u)
    (hnot : ¬ (u.driver = true ∧ var ∈ u.live)) :
    runOp s (.deviceCreate true true var) = none := by
  simp only [runOp, Wdf.deviceCreate, Bool.not_true, Bool.false_eq_true, if_false]
  cases hdriver : u.driver with
  | false =>
    rw [ht.slot, hdriver]
    rfl
  | true =>
    rw [ht.driver_eq hdriver]
    cases hi : s.locals.init var with
    | none => rfl
    | some i =>
      have hfreed : i ∈ s.heap.freed := by
        by_contra hfree
        exact hnot ⟨hdriver, (ht.inits.live var).mpr ⟨i, hi, hfree⟩⟩
      simp only [if_pos hfreed, Option.map_none]

theorem Tracks.deviceCreate (ht : Tracks base id before s u) (var : InitVar) :
    Option.Rel (Tracks base id before) (runOp s (.deviceCreate true true var))
      (u.op (.deviceCreate true true var)) := by
  simp only [Usage.op, Bool.and_self, if_true]
  by_cases hok : u.driver = true ∧ var ∈ u.live
  · obtain ⟨i, hi, hfree⟩ := (ht.inits.live var).mp hok.2
    rw [runOp_deviceCreate (ht.driver_eq hok.1) hi hfree, if_pos hok]
    exact .some (ht.created hok.1 hi)
  · rw [ht.deviceCreate_eq_none hok, if_neg hok]
    exact .none

theorem Tracks.initFree (ht : Tracks base id before s u) (k : Nat) :
    Tracks base id before (deviceInitFree s (s.locals.init (.own k)))
      { u with live := u.live.erase (.own k) } := by
  cases hv : s.locals.init (.own k) with
  | none =>
    rw [ht.inits.erase_null hv]
    exact ht
  | some i =>
    have hkind := ht.inits.kinds _ i hv
    exact ⟨ht.slot, ht.early, ht.heap.free hkind.1 (lt_next_of_getElem? hkind.2),
      ht.devices.free_init hkind.2, ht.inits.release hv (fun _ _ => rfl) (.inr hv) rfl, ht.length⟩

theorem Tracks.objectDelete (ht : Tracks base id before s u) {k : Nat} {d : Object}
    (hk : s.locals.created[k]? = some d) :
    Tracks base id before (objectDelete s (some d)) { u with deleted := k :: u.deleted } := by
  have hid := ht.devices.ids d (List.mem_of_getElem? hk)
  have hdriver : u.driver = true := by
    by_contra hnot
    have hnil := ht.early (Bool.eq_false_iff.mpr hnot)
    have hlt := (List.getElem?_eq_some_iff.mp hk).1
    rw [ht.length, hnil] at hlt
    cases hlt
  have hslot := ht.driver_eq hdriver
  have hinits : InitsOk base (s.heap.free (some d)) s.locals u.live u.own := by
    refine ht.inits.frame (fun _ hi => hi) ?_ rfl rfl
    intro v i hv
    have hne := isDevice_ne_init hid.2 (ht.inits.kinds v i hv).2
    rw [Heap.free, List.mem_cons, or_iff_right hne.symm]
  simp only [Wdf.objectDelete, hslot]
  refine ⟨hslot ▸ ht.slot, ht.early, ht.heap.free hid.1 (lt_next_of_getElem? hid.2), ?_,
    hinits, ht.length⟩
  simpa [State.devices, State.setDevices] using ht.devices.delete hk

/-- The calls of a driver go wrong just when its usage does. -/
theorem track (ht : Tracks base id before s u) (op : Op) :
    Option.Rel (Tracks base id before) (runOp s op) (u.op op) := by
  cases op with
  | deviceCreate globals allocated var =>
    cases globals with
    | false => exact .some ht
    | true =>
      cases allocated with
      | false => exact .some ht
      | true => exact ht.deviceCreate var
  | initAllocate allocated =>
    cases allocated with
    | false =>
      exact .some ⟨ht.slot, ht.early, ht.heap, ht.devices, ht.inits.append_null, ht.length⟩
    | true =>
      exact .some ⟨ht.slot, ht.early, ht.heap.allocate _, ht.devices.allocate_init,
        ht.inits.allocate ht.heap, ht.length⟩
  | initFree k => exact .some (ht.initFree k)
  | objectDelete k =>
    simp only [runOp, Usage.op]
    refine .some ?_
    cases hk : s.locals.created[k]? with
    | none =>
      have hge := List.getElem?_eq_none_iff.mp hk
      rw [if_neg (by rw [← ht.length]; exact Nat.not_lt.mpr hge)]
      simpa [Wdf.objectDelete, Heap.free] using ht
    | some d =>
      have hlt := (List.getElem?_eq_some_iff.mp hk).1
      rw [if_pos (by rw [← ht.length]; exact hlt)]
      exact ht.objectDelete hk

theorem track_ops (ht : Tracks base id before s u) (ops : List Op) :
    Option.Rel (Tracks base id before) (exec runOp s ops) (exec Usage.op u ops) :=
  exec_rel (fun _ _ op ht => track ht op) ht

end Calls

end Usersim.Wdf
