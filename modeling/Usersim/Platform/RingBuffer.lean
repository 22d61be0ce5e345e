import Mathlib.Algebra.Group.Nat.Defs
import Mathlib.Data.List.Basic
import Usersim.Basic

/-!
# Ring buffer memory (`platform_user.cpp`)

`usersim_allocate_ring_buffer_memory` reserves a placeholder of twice the length, splits it, and
maps one section into both halves. The system is outside: `Os` has what it answers to the calls of
one allocation, in the order of the calls, and `Process` has what the process owns by them. Zero
stands for a null pointer.

* `allOrNothing_iff` — an allocation is all or nothing unless a step after the split fails
-/

namespace Usersim.Platform.RingBuffer

inductive Resource where
  /-- The `usersim_ring_descriptor_t`. -/
  | descriptor
  /-- The handle of a section, with the maximum size of the section. -/
  | sectionHandle (size : BitVec 32)
  | placeholder (start : Address) (size : SizeT)
  /-- A view of a section of a size. -/
  | view (start : Address) (length : SizeT) (size : BitVec 32)
deriving DecidableEq, Repr

def isHandle : Resource → Bool
  | .sectionHandle _ => true
  | _ => false

def isPlaceholderAt (a : Address) : Resource → Bool
  | .placeholder start _ => start == a
  | _ => false

def isViewAt (a : Address) : Resource → Bool
  | .view start _ _ => start == a
  | _ => false

/-- What was acquired and has not been released yet. -/
structure Process where
  held : List Resource
  /-- Something was released that is not there. -/
  invalidRelease : Bool
deriving DecidableEq, Repr

def Process.init : Process where
  held := []
  invalidRelease := false

def Process.acquire (p : Process) (r : Resource) : Process := { p with held := r :: p.held }

def Process.release (p : Process) (isIt : Resource → Bool) : Process :=
  match p.held.find? isIt with
  | some r => { p with held := p.held.erase r }
  | none => { p with invalidRelease := true }

/-- `VirtualFree` with `MEM_PRESERVE_PLACEHOLDER`, if it succeeds: two placeholders for one. -/
def Process.split (p : Process) (start : Address) (length size : SizeT) : Process :=
  (((p.release (isPlaceholderAt start)).acquire (.placeholder start length)).acquire
    (.placeholder (start + length) (size - length)))

/-- `MapViewOfFile3` with `MEM_REPLACE_PLACEHOLDER`, if it succeeds. -/
def Process.mapView (p : Process) (start : Address) (length : SizeT) (size : BitVec 32) : Process :=
  (p.release (isPlaceholderAt start)).acquire (.view start length size)

/-- The answers of the system. -/
structure Os where
  /-- `dwAllocationGranularity`, which is not zero. -/
  allocationGranularity : BitVec 32
  /-- `cxplat_allocate` returns a descriptor. -/
  allocate : Bool
  /-- The start of the region that `VirtualAlloc2` reserves, or null. -/
  virtualAlloc2 : Address
  /-- `VirtualFree` splits the placeholder. -/
  virtualFree : Bool
  createFileMapping : Bool
  mapFirst : Bool
  mapSecond : Bool
  /-- `VirtualFree` releases the placeholder, where it is called for it at the end. -/
  releaseFirst : Bool
  releaseSecond : Bool
deriving DecidableEq, Repr

structure Descriptor where
  primaryView : Address
  secondaryView : Address
  length : SizeT
deriving DecidableEq, Repr

def Descriptor.setViews (d : Descriptor) (view1 view2 : Address) : Descriptor :=
  { d with primaryView := view1, secondaryView := view2 }

structure Locals where
  result : Bool
  descriptor : Option Descriptor
  /-- The section, by its maximum size. -/
  section_ : Option (BitVec 32)
  placeholder1 : Address
  placeholder2 : Address
  view1 : Address
  view2 : Address
deriving DecidableEq, Repr

def Locals.init : Locals where
  result := false
  descriptor := none
  section_ := none
  placeholder1 := 0
  placeholder2 := 0
  view1 := 0
  view2 := 0

/-- From the creation of the section on; `length` is cast to an `unsigned long`. -/
def mapViews (os : Os) (length : SizeT) (l : Locals) (p : Process) : Locals × Process :=
  if !os.createFileMapping then (l, p)
  else
    let size := length.setWidth 32
    let l := { l with section_ := some size }
    let p := p.acquire (.sectionHandle size)
    if !os.mapFirst then (l, p)
    else
      let p := p.mapView l.placeholder1 length size
      -- ownership is transferred to the view
      let l := { l with view1 := l.placeholder1, placeholder1 := 0 }
      if !os.mapSecond then (l, p)
      else
        let p := p.mapView l.placeholder2 length size
        let l := { l with view2 := l.placeholder2 }
        let descriptor := l.descriptor.map fun d : Descriptor => d.setViews l.view1 l.view2
        let l := { l with result := true, descriptor := descriptor }
        ({ l with placeholder2 := 0, view1 := 0, view2 := 0 }, p)

/-- Up to the label `Exit`. The descriptor is allocated with zeros. -/
def acquireAll (os : Os) (length : SizeT) : Locals × Process :=
  if !os.allocate then (.init, .init)
  else
    let l := { Locals.init with descriptor := some ⟨0, 0, length⟩ }
    let p := Process.init.acquire .descriptor
    if os.virtualAlloc2 = 0 then (l, p)
    else
      let l := { l with placeholder1 := os.virtualAlloc2 }
      let p := p.acquire (.placeholder os.virtualAlloc2 (2 * length))
      -- the result of this call is the result of the function until the end
      let l := { l with result := os.virtualFree }
      if !l.result then (l, p)
      else
        let p := p.split l.placeholder1 length (2 * length)
        mapViews os length { l with placeholder2 := l.placeholder1 + length } p

/-- `VirtualFree` with `MEM_RELEASE` of a placeholder, if there is one. -/
def releasePlaceholder (p : Process) (placeholder : Address) (succeeds : Bool) : Process :=
  if placeholder ≠ 0 ∧ succeeds then p.release (isPlaceholderAt placeholder) else p

/-- `UnmapViewOfFileEx` of a view, if there is one. -/
def unmapView (p : Process) (view : Address) : Process :=
  if view ≠ 0 then p.release (isViewAt view) else p

/-- From the label `Exit` on. -/
def cleanUp (os : Os) (l : Locals) (p : Process) : Option Descriptor × Process :=
  let p := if !l.result && l.descriptor.isSome then p.release (· = .descriptor) else p
  let descriptor := if !l.result then none else l.descriptor
  let p := if l.section_.isSome then p.release isHandle else p
  let p := releasePlaceholder p l.placeholder1 os.releaseFirst
  let p := releasePlaceholder p l.placeholder2 os.releaseSecond
  let p := unmapView p l.view1
  let p := unmapView p l.view2
  (descriptor, p)

def validLength (os : Os) (length : SizeT) : Bool :=
  length != 0 && length % os.allocationGranularity.setWidth 64 == 0

def usersimAllocateRingBufferMemory (os : Os) (length : SizeT) : Option Descriptor × Process :=
  if validLength os length then
    let (l, p) := acquireAll os length
    cleanUp os l p
  else (none, .init)

def usersimFreeRingBufferMemory (p : Process) (ring : Option Descriptor) : Process :=
  match ring with
  | none => p
  | some ring =>
    let p := p.release (isViewAt ring.primaryView)
    let p := p.release (isViewAt ring.secondaryView)
    p.release (· = .descriptor)

/-! ## What an allocation is for -/

structure EveryStepSucceeds (os : Os) (length : SizeT) : Prop where
  valid : validLength os length = true
  allocate : os.allocate = true
  virtualAlloc2 : os.virtualAlloc2 ≠ 0
  virtualFree : os.virtualFree = true
  createFileMapping : os.createFileMapping = true
  mapFirst : os.mapFirst = true
  mapSecond : os.mapSecond = true

/-- The descriptor and two adjacent views of one section of the length are all that is there. -/
structure Mapped (p : Process) (d : Descriptor) (length : SizeT) : Prop where
  length_eq : d.length = length
  adjacent : d.secondaryView = d.primaryView + length
  held : ∃ size : BitVec 32, size.toNat = length.toNat ∧
    p.held.Perm [.view d.primaryView length size, .view d.secondaryView length size, .descriptor]
  valid : p.invalidRelease = false

/-- Everything was released, and nothing twice. -/
structure AllReleased (p : Process) : Prop where
  held : p.held = []
  valid : p.invalidRelease = false

structure AllOrNothing (os : Os) (length : SizeT) : Prop where
  returned_iff : (usersimAllocateRingBufferMemory os length).1.isSome = true ↔
    EveryStepSucceeds os length
  mapped : ∀ d, (usersimAllocateRingBufferMemory os length).1 = some d →
    Mapped (usersimAllocateRingBufferMemory os length).2 d length ∧
      AllReleased (usersimFreeRingBufferMemory
        (usersimAllocateRingBufferMemory os length).2 (some d))
  undone : (usersimAllocateRingBufferMemory os length).1 = none →
    AllReleased (usersimAllocateRingBufferMemory os length).2

/-- The call that fails is the split or an earlier one, and the placeholder can be released then. -/
def FailsBySplit (os : Os) (length : SizeT) : Prop :=
  validLength os length = false ∨ os.allocate = false ∨ os.virtualAlloc2 = 0 ∨
    (os.virtualFree = false ∧ os.releaseFirst = true)

variable {os : Os} {length : SizeT}

/-! ## Releasing -/

@[simp] theorem release_nil (b : Bool) (isIt : Resource → Bool) :
    (⟨[], b⟩ : Process).release isIt = ⟨[], true⟩ := rfl

@[simp] theorem release_cons (r : Resource) (l : List Resource) (b : Bool)
    (isIt : Resource → Bool) :
    (⟨r :: l, b⟩ : Process).release isIt =
      if isIt r then ⟨l, b⟩ else ((⟨l, b⟩ : Process).release isIt).acquire r := by
  unfold Process.release Process.acquire
  cases hr : isIt r
  · rw [List.find?_cons_of_neg (by simp [hr])]
    cases hfind : l.find? isIt with
    | none => simp
    | some r' =>
      have hne : r ≠ r' := by
        rintro rfl
        exact absurd (List.find?_some hfind) (by simp [hr])
      simp [List.erase_cons_tail, hne]
  · rw [List.find?_cons_of_pos hr]
    simp

@[simp] theorem acquire_mk (l : List Resource) (b : Bool) (r : Resource) :
    (⟨l, b⟩ : Process).acquire r = ⟨r :: l, b⟩ := rfl

/-! ## The allocation by the step that fails -/

theorem cleanUp_init (os : Os) : cleanUp os .init .init = (none, .init) := by
  simp [cleanUp, releasePlaceholder, unmapView, Locals.init]

theorem allocate_invalid (h : validLength os length = false) :
    usersimAllocateRingBufferMemory os length = (none, .init) := by
  simp [usersimAllocateRingBufferMemory, h]

theorem allocate_noDescriptor (h : os.allocate = false) :
    usersimAllocateRingBufferMemory os length = (none, .init) := by
  simp [usersimAllocateRingBufferMemory, acquireAll, h, cleanUp_init]

theorem allocate_noPlaceholder (hvalid : validLength os length = true)
    (hallocate : os.allocate = true) (h : os.virtualAlloc2 = 0) :
    usersimAllocateRingBufferMemory os length = (none, .init) := by
  simp [usersimAllocateRingBufferMemory, acquireAll, cleanUp, releasePlaceholder, unmapView,
    Locals.init, Process.init, hvalid, hallocate, h]

theorem allocate_noSplit (hvalid : validLength os length = true) (hallocate : os.allocate = true)
    (hregion : os.virtualAlloc2 ≠ 0#64) (h : os.virtualFree = false) :
    usersimAllocateRingBufferMemory os length =
      (none, if os.releaseFirst then .init
        else { held := [.placeholder os.virtualAlloc2 (2 * length)],
               invalidRelease := false }) := by
  cases hrelease : os.releaseFirst
  · simp [usersimAllocateRingBufferMemory, acquireAll, cleanUp, releasePlaceholder, unmapView,
      Locals.init, Process.init, hvalid, hallocate, hregion, h, hrelease]
  · simp [usersimAllocateRingBufferMemory, acquireAll, cleanUp, releasePlaceholder, unmapView,
      Locals.init, Process.init, hvalid, hallocate, hregion, h, hrelease, isPlaceholderAt]

/-- What is there once the placeholder is split. -/
def afterSplit (os : Os) (length : SizeT) : Locals × Process :=
  ({ Locals.init with
      result := true
      descriptor := some ⟨0, 0, length⟩
      placeholder1 := os.virtualAlloc2
      placeholder2 := os.virtualAlloc2 + length },
    { held := [.placeholder (os.virtualAlloc2 + length) (2 * length - length),
        .placeholder os.virtualAlloc2 length, .descriptor]
      invalidRelease := false })

theorem acquireAll_afterSplit (hallocate : os.allocate = true) (hregion : os.virtualAlloc2 ≠ 0#64)
    (hsplit : os.virtualFree = true) :
    acquireAll os length =
      mapViews os length (afterSplit os length).1 (afterSplit os length).2 := by
  simp [acquireAll, afterSplit, Process.split, Process.init, Locals.init,
    isPlaceholderAt, hallocate, hregion, hsplit]

/-- The split has set the result, and the steps after it do not take it back. -/
theorem mapViews_result (os : Os) (length : SizeT) (l : Locals) (p : Process)
    (hresult : l.result = true)
    (hdescriptor : l.descriptor.isSome = true) :
    (mapViews os length l p).1.result = true ∧
      (mapViews os length l p).1.descriptor.isSome = true := by
  unfold mapViews
  cases os.createFileMapping <;> cases os.mapFirst <;> cases os.mapSecond <;>
    simp [hresult, hdescriptor]

theorem allocate_afterSplit (hvalid : validLength os length = true) (hallocate : os.allocate = true)
    (hregion : os.virtualAlloc2 ≠ 0#64) (hsplit : os.virtualFree = true) :
    (usersimAllocateRingBufferMemory os length).1.isSome = true := by
  obtain ⟨hresult, hdescriptor⟩ := mapViews_result os length
    (afterSplit os length).1 (afterSplit os length).2 rfl rfl
  rw [usersimAllocateRingBufferMemory, if_pos hvalid,
    acquireAll_afterSplit hallocate hregion hsplit]
  simp [cleanUp, hresult, hdescriptor]

theorem allocate_all (h : EveryStepSucceeds os length) :
    usersimAllocateRingBufferMemory os length =
      (some ⟨os.virtualAlloc2, os.virtualAlloc2 + length, length⟩,
        { held := [.view (os.virtualAlloc2 + length) length (length.setWidth 32),
            .view os.virtualAlloc2 length (length.setWidth 32), .descriptor]
          invalidRelease := false }) := by
  obtain ⟨hvalid, hallocate, hregion, hsplit, hsection, hfirst, hsecond⟩ := h
  have hne : length ≠ 0#64 := by
    rintro rfl
    simp [validLength] at hvalid
  rw [usersimAllocateRingBufferMemory, if_pos hvalid,
    acquireAll_afterSplit hallocate hregion hsplit]
  simp [afterSplit, mapViews, Process.mapView, cleanUp, releasePlaceholder, unmapView, Locals.init,
    isPlaceholderAt, isHandle, Descriptor.setViews, hsection, hfirst, hsecond, hne]

/-! ## All or nothing -/

theorem everyStepSucceeds_length_ne (h : EveryStepSucceeds os length) : length ≠ 0#64 := by
  rintro rfl
  simpa [validLength] using h.valid

theorem failsBySplit_not_everyStep (h : FailsBySplit os length) :
    ¬ EveryStepSucceeds os length := by
  intro he
  rcases h with h | h | h | ⟨h, -⟩
  · simp [he.valid] at h
  · simp [he.allocate] at h
  · exact he.virtualAlloc2 h
  · simp [he.virtualFree] at h

theorem allocate_failsBySplit (h : FailsBySplit os length) :
    usersimAllocateRingBufferMemory os length = (none, .init) := by
  by_cases hvalid : validLength os length = true
  · by_cases hallocate : os.allocate = true
    · by_cases hregion : os.virtualAlloc2 = 0#64
      · exact allocate_noPlaceholder hvalid hallocate hregion
      · rcases h with h | h | h | ⟨hsplit, hrelease⟩
        · simp [hvalid] at h
        · simp [hallocate] at h
        · exact absurd h hregion
        · rw [allocate_noSplit hvalid hallocate hregion hsplit, if_pos hrelease]
    · exact allocate_noDescriptor (by simpa using hallocate)
  · exact allocate_invalid (by simpa using hvalid)

/-- The views are of a section of the length where the cast to an
`unsigned long` keeps the length. -/
theorem mapped_iff (start : Address) (length : SizeT) :
    Mapped { held := [.view (start + length) length (length.setWidth 32),
        .view start length (length.setWidth 32), .descriptor], invalidRelease := false }
        ⟨start, start + length, length⟩ length ↔ length.toNat < 2 ^ 32 := by
  constructor
  · rintro ⟨-, -, ⟨size, hsize, -⟩, -⟩
    rw [← hsize]
    exact size.isLt
  · intro hlt
    refine ⟨rfl, rfl, ⟨length.setWidth 32, ?_, .swap _ _ _⟩, rfl⟩
    rw [BitVec.toNat_setWidth, Nat.mod_eq_of_lt hlt]

/-- Freeing the descriptor releases the two views, which are not at one address. -/
theorem free_all (start : Address) (size : BitVec 32) (hne : length ≠ 0#64) :
    usersimFreeRingBufferMemory
      { held := [.view (start + length) length size, .view start length size, .descriptor]
        invalidRelease := false } (some ⟨start, start + length, length⟩) = .init := by
  simp [usersimFreeRingBufferMemory, isViewAt, hne, Process.init]

theorem allReleased_init : AllReleased .init := ⟨rfl, rfl⟩

theorem allOrNothing_of_failsBySplit (h : FailsBySplit os length) : AllOrNothing os length where
  returned_iff := by
    rw [allocate_failsBySplit h]
    exact iff_of_false (by simp) (failsBySplit_not_everyStep h)
  mapped := by
    intro d hd
    rw [allocate_failsBySplit h] at hd
    cases hd
  undone := by
    rw [allocate_failsBySplit h]
    exact fun _ => allReleased_init

theorem allOrNothing_of_everyStepSucceeds (h : EveryStepSucceeds os length)
    (hlt : length.toNat < 2 ^ 32) : AllOrNothing os length where
  returned_iff := by
    rw [allocate_all h]
    exact iff_of_true rfl h
  mapped := by
    intro d hd
    rw [allocate_all h] at hd ⊢
    obtain rfl := Option.some.inj hd
    refine ⟨(mapped_iff _ _).mpr hlt, ?_⟩
    rw [free_all _ _ (everyStepSucceeds_length_ne h)]
    exact allReleased_init
  undone := by
    rw [allocate_all h]
    intro hd
    cases hd

/-- A descriptor that is returned without every step, or a placeholder that stays. -/
theorem failsBySplit_or_everyStep (h : AllOrNothing os length) :
    FailsBySplit os length ∨ EveryStepSucceeds os length := by
  by_cases hvalid : validLength os length = true
  swap; · exact .inl (.inl (by simpa using hvalid))
  by_cases hallocate : os.allocate = true
  swap; · exact .inl (.inr (.inl (by simpa using hallocate)))
  by_cases hregion : os.virtualAlloc2 = 0#64
  · exact .inl (.inr (.inr (.inl hregion)))
  cases hsplit : os.virtualFree with
  | true =>
    exact .inr (h.returned_iff.mp (allocate_afterSplit hvalid hallocate hregion hsplit))
  | false =>
    cases hrelease : os.releaseFirst with
    | true => exact .inl (.inr (.inr (.inr ⟨hsplit, hrelease⟩)))
    | false =>
      have hreturned := allocate_noSplit hvalid hallocate hregion hsplit
      simp only [hrelease, Bool.false_eq_true, if_false] at hreturned
      have hheld := (h.undone (by rw [hreturned])).held
      rw [hreturned] at hheld
      cases hheld

/-- Where a step after the split fails, the result of the split is still there: the function returns
the descriptor, and its views are null. -/
theorem allOrNothing_iff (os : Os) (length : SizeT) :
    AllOrNothing os length ↔
      FailsBySplit os length ∨ EveryStepSucceeds os length ∧ length.toNat < 2 ^ 32 := by
  constructor
  · intro h
    refine (failsBySplit_or_everyStep h).imp_right fun hsteps => ⟨hsteps, ?_⟩
    have hreturned := allocate_all hsteps
    have hmapped := (h.mapped _ (by rw [hreturned])).1
    rw [hreturned] at hmapped
    exact (mapped_iff _ _).mp hmapped
  · rintro (h | ⟨h, hlt⟩)
    · exact allOrNothing_of_failsBySplit h
    · exact allOrNothing_of_everyStepSucceeds h hlt

/-- `CreateFileMapping` fails. -/
def noSection : Os where
  allocationGranularity := 0x10000
  allocate := true
  virtualAlloc2 := 0x20000
  virtualFree := true
  createFileMapping := false
  mapFirst := true
  mapSecond := true
  releaseFirst := true
  releaseSecond := true

theorem noSection_returns_descriptor :
    usersimAllocateRingBufferMemory noSection 0x10000 = (some ⟨0, 0, 0x10000⟩,
        { held := [.descriptor], invalidRelease := false }) ∧
      ¬ AllOrNothing noSection 0x10000 := by
  refine ⟨by decide, fun h => ?_⟩
  have hsteps := h.returned_iff.mp (by decide)
  exact absurd hsteps.createFileMapping (by decide)

end Usersim.Platform.RingBuffer
