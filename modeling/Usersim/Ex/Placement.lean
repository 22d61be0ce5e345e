import Usersim.Ex.Pool

/-!
# Where allocations are

What is handed out should lie in the block that the allocator returned, behind the headers, on a
cache line where that was asked for, and go back to the allocator it came from. The offset of
`memory_winuser.cpp` and the header of `ex.cpp` are added to the size without a check, so a size
near `2 ^ 64` makes the request wrap, and the block is too small.

* `placed_iff_noWrap` — every call of a sequence does it right just when no request wraps
-/

namespace Usersim.Ex

open Lib Memory Memory.Winuser

/-! ## Allocations of both kinds -/

/-- An allocation somebody holds, with the flags it was allocated with and its size. -/
structure Live where
  memory : Allocation
  /-- `usersim_allocation_header_t`, for an allocation of `ex.cpp`. -/
  exHeader : Option PoolFlags
  poolFlags : PoolFlags
  size : SizeT

/-- The bytes of the executive's header. -/
def Live.room (l : Live) : SizeT :=
  match l.exHeader with
  | none => 0
  | some _ => headerSize

/-- What is handed out. -/
def Live.pointer (l : Live) : Pointer := l.memory.pointer + l.room

/-- The headers, from the first address to the one behind the last. -/
def Live.headers (build : Build) (l : Live) : List (Nat × Nat) :=
  (match build with
    | .debug => [(l.memory.pointer.toNat - headerLength, l.memory.pointer.toNat)]
    | .release => []) ++
  match l.exHeader with
    | none => []
    | some _ => [(l.memory.pointer.toNat, l.memory.pointer.toNat + headerSize.toNat)]

/-- The allocation lies in its block, on a cache line if it was to, and over no header. -/
structure Placed (build : Build) (l : Live) (others : List Live) : Prop where
  first : l.memory.block.pointer.start.toNat ≤ l.pointer.toNat
  last : l.pointer.toNat + l.size.toNat ≤
    l.memory.block.pointer.start.toNat + l.memory.block.length.toNat
  aligned : l.poolFlags &&& cacheAligned ≠ 0 → l.pointer.toNat % cacheLineSize = 0
  apart : ∀ c ∈ l :: others, ∀ h ∈ c.headers build,
    h.2 ≤ l.pointer.toNat ∨ l.pointer.toNat + l.size.toNat ≤ h.1
  headersApart : ∀ c ∈ others, ∀ h ∈ l.headers build,
    h.2 ≤ c.pointer.toNat ∨ c.pointer.toNat + c.size.toNat ≤ h.1

/-! ## Calls -/

/-- Allocations that are passed are named by their place in the list of all. -/
inductive Call where
  | cxplatAllocate (poolFlags : PoolFlags) (size : SizeT) (tag : BitVec 32)
  | cxplatReallocate (i : Nat) (poolFlags : PoolFlags) (oldSize newSize : SizeT) (tag : BitVec 32)
  | cxplatFree (i : Nat) (poolFlags : PoolFlags) (tag : BitVec 32)
  | exAllocatePoolUninitialized (poolType : PoolType) (numberOfBytes : SizeT) (tag : BitVec 32)
  | exAllocatePool2 (irql : Nat) (poolFlags : ExPoolFlags) (numberOfBytes : SizeT) (tag : BitVec 32)
  | exAllocatePoolWithTag (irql : Nat) (poolType : PoolType) (numberOfBytes : SizeT)
      (tag : BitVec 32)
  | exFreePool (i : Nat)
  | exFreePoolWithTag (i : Nat) (tag : BitVec 32)

structure Action where
  env : Environment
  call : Call

/-- What a call that returns has done. -/
inductive Effect where
  | allocated (l : Live)
  | moved (i : Nat) (l : Live)
  /-- The pointer was passed to `free` or `_aligned_free`. -/
  | freed (i : Nat) (p : BlockPointer)

def ofCxplat (poolFlags : PoolFlags) (size : SizeT) (memory : Allocation) : Effect :=
  .allocated { memory := memory, exHeader := none, poolFlags := poolFlags, size := size }

def ofEx (size : SizeT) (a : ExAllocation) : Effect :=
  .allocated { memory := a.memory, exHeader := some a.poolFlags, poolFlags := a.poolFlags,
               size := size }

/-- Sizes are not 0, and what is passed to `cxplat_reallocate` and `cxplat_free` is an allocation of
`cxplat_allocate` and its flags. -/
def run (build : Build) (heap : List Live) (a : Action) : Option (Outcome Effect) :=
  match a.call with
  | .cxplatAllocate poolFlags size tag =>
    if size = 0 then none
    else some ((cxplatAllocate build a.env poolFlags size tag).map (ofCxplat poolFlags size))
  | .cxplatReallocate i poolFlags oldSize newSize tag =>
    (heap[i]?).bind fun l =>
      if newSize = 0 || l.exHeader.isSome || l.poolFlags ≠ poolFlags then none
      else
        some ((cxplatReallocate build a.env l.memory poolFlags oldSize newSize tag).map
          fun memory =>
          .moved i { l with memory := memory, size := newSize })
  | .cxplatFree i poolFlags tag =>
    (heap[i]?).bind fun l =>
      if l.exHeader.isSome || l.poolFlags ≠ poolFlags then none
      else some ((cxplatFree build l.memory poolFlags tag).map (.freed i))
  | .exAllocatePoolUninitialized poolType numberOfBytes tag =>
    if numberOfBytes = 0 then none
    else
      some ((exAllocatePoolUninitialized build a.env poolType numberOfBytes tag).map
        (ofEx numberOfBytes))
  | .exAllocatePool2 irql poolFlags numberOfBytes tag =>
    if numberOfBytes = 0 then none
    else
      some ((exAllocatePool2 build a.env irql poolFlags numberOfBytes tag).map (ofEx numberOfBytes))
  | .exAllocatePoolWithTag irql poolType numberOfBytes tag =>
    if numberOfBytes = 0 then none
    else
      some ((exAllocatePoolWithTag build a.env irql poolType numberOfBytes tag).map
        (ofEx numberOfBytes))
  | .exFreePool i =>
    (heap[i]?).bind fun l => l.exHeader.map fun poolFlags =>
      (exFreePool build (some { memory := l.memory, poolFlags := poolFlags })).map (.freed i)
  | .exFreePoolWithTag i tag =>
    (heap[i]?).bind fun l => l.exHeader.map fun poolFlags =>
      (exFreePoolWithTag build (some { memory := l.memory, poolFlags := poolFlags }) tag).map
        (.freed i)

/-! ## What the allocators promise -/

/-- What a call wants: so many bytes behind a header of the executive or none. -/
structure Wanted where
  poolFlags : PoolFlags
  room : SizeT
  size : SizeT

def Call.wanted : Call → Option Wanted
  | .cxplatAllocate poolFlags size _ => some ⟨poolFlags, 0, size⟩
  | .cxplatReallocate _ poolFlags _ newSize _ => some ⟨poolFlags, 0, newSize⟩
  | .exAllocatePoolUninitialized poolType numberOfBytes _ =>
    (poolTypeToFlags poolType false).map fun poolFlags => ⟨poolFlags, headerSize, numberOfBytes⟩
  | .exAllocatePool2 _ poolFlags numberOfBytes _ =>
    some ⟨poolFlags.setWidth 32, headerSize, numberOfBytes⟩
  | .exAllocatePoolWithTag _ poolType numberOfBytes _ =>
    (poolTypeToFlags poolType true).map fun poolFlags => ⟨poolFlags, headerSize, numberOfBytes⟩
  | .cxplatFree .. | .exFreePool _ | .exFreePoolWithTag .. => none

/-- What is added to the size, by both layers. -/
def Wanted.offset (build : Build) (w : Wanted) : Nat :=
  (build.pointerOffset (allocatorFor w.poolFlags)).toNat + w.room.toNat

/-- The length of the request, as it is computed. -/
def Wanted.fullSize (build : Build) (w : Wanted) : SizeT :=
  build.pointerOffset (allocatorFor w.poolFlags) + (w.room + w.size)

/-- A block of the length that was asked for, aligned where that was asked for, and away from the
other blocks. -/
def Wanted.fits (build : Build) (w : Wanted) (reply : Reply) (others : List Live) : Bool :=
  let stop := reply.start.toNat + (w.fullSize build).toNat
  stop ≤ addressSpaceEnd &&
    (w.poolFlags &&& cacheAligned = 0 || reply.start.toNat % cacheLineSize = 0) &&
    others.all fun c =>
      stop ≤ c.memory.block.pointer.start.toNat ||
        c.memory.block.pointer.start.toNat + c.memory.block.length.toNat ≤ reply.start.toNat

/-- The allocations other than the one a call replaces or frees. -/
def Call.others (heap : List Live) : Call → List Live
  | .cxplatReallocate i _ _ _ _ | .cxplatFree i _ _ | .exFreePool i | .exFreePoolWithTag i _ =>
    heap.eraseIdx i
  | .cxplatAllocate .. | .exAllocatePoolUninitialized .. | .exAllocatePool2 ..
  | .exAllocatePoolWithTag .. => heap

/-- The allocator keeps its promise to the call. -/
def Action.served (build : Build) (heap : List Live) (a : Action) : Bool :=
  a.env.reply.all fun reply =>
    a.call.wanted.all fun w => w.fits build reply (a.call.others heap)

/-- `realloc` frees the allocation of a call that resizes it and returns null. -/
def Action.freesOld (build : Build) (heap : List Live) (a : Action) : Bool :=
  match a.call with
  | .cxplatReallocate i poolFlags oldSize newSize tag =>
    (heap[i]?).any fun l => reallocFrees build a.env l.memory poolFlags oldSize newSize tag
  | _ => false

/-- A call that returns. -/
def step (build : Build) (heap : List Live) (a : Action) : Option (List Live) :=
  if a.served build heap then
    match run build heap a with
    | some .null => some (if a.freesOld build heap then a.call.others heap else heap)
    | some (.returned (.allocated l)) => some (l :: heap)
    | some (.returned (.moved i l)) => some (l :: heap.eraseIdx i)
    | some (.returned (.freed i _)) => some (heap.eraseIdx i)
    | some (.stopped _) | none => none
  else none

/-- The call passes its checks and gets a block. -/
def Action.getsBlock (build : Build) (heap : List Live) (a : Action) : Bool :=
  match a.call with
  | .cxplatAllocate _ size _ => asks build a.env size
  | .cxplatReallocate i poolFlags oldSize newSize tag =>
    (heap[i]?).any fun l => asksAgain build a.env l.memory poolFlags oldSize newSize tag
  | .exAllocatePoolUninitialized poolType numberOfBytes tag =>
    tag ≠ 0 && (poolTypeToFlags poolType false).isSome &&
      asks build a.env (headerSize + numberOfBytes)
  | .exAllocatePool2 irql poolFlags numberOfBytes tag =>
    tag ≠ 0 && !irqlTooHigh build irql (poolFlags.setWidth 32) &&
      asks build a.env (headerSize + numberOfBytes)
  | .exAllocatePoolWithTag irql poolType numberOfBytes tag =>
    tag ≠ 0 && (poolTypeToFlags poolType true).any fun poolFlags =>
      !irqlTooHigh build irql poolFlags && asks build a.env (headerSize + numberOfBytes)
  | .cxplatFree .. | .exFreePool _ | .exFreePoolWithTag .. => false

/-- If the call gets a block, what it asked for has not wrapped. -/
def NoWrap (build : Build) (heap : List Live) (a : Action) : Prop :=
  a.getsBlock build heap = true →
    (a.call.wanted.all fun w => w.offset build + w.size.toNat < 2 ^ 64) = true

instance (build : Build) (heap : List Live) (a : Action) : Decidable (NoWrap build heap a) :=
  inferInstanceAs (Decidable (_ = true → _ = true))

def OutcomeOk (build : Build) (heap : List Live) : Outcome Effect → Prop
  | .null => True
  | .stopped reason => reason ≠ .accessViolation ∧ reason ≠ .heapCorruption
  | .returned (.allocated l) => Placed build l heap
  | .returned (.moved i l) => Placed build l (heap.eraseIdx i)
  | .returned (.freed i p) => (heap[i]?).map (fun l => l.memory.block.pointer) = some p

/-- The call returns null or something well placed, or frees the right block. (It may
stop at a check instead.) -/
def PlacedOk (build : Build) (heap : List Live) (a : Action) : Prop :=
  ∀ o, run build heap a = some o → OutcomeOk build heap o

/-- The call can be made, and the allocators keep their promise. -/
def Admissible (build : Build) (heap : List Live) (a : Action) : Prop :=
  (run build heap a).isSome = true ∧ a.served build heap = true

instance (build : Build) (heap : List Live) (a : Action) : Decidable (Admissible build heap a) :=
  inferInstanceAs (Decidable (_ = true ∧ _ = true))

/-! ## Addresses -/

theorem room_le (l : Live) : l.room.toNat ≤ 64 := by
  unfold Live.room
  split <;> decide

/-- What is handed out ends inside the block if and only if nothing has wrapped. -/
theorem inside_iff {start length off room size : Nat} (hoff : off ≤ 64) (hroom : room ≤ 64)
    (hsize : size < 2 ^ 64) (hlength : length = (off + (room + size) % 2 ^ 64) % 2 ^ 64)
    (hstop : start + length ≤ 2 ^ 47) :
    (start ≤ ((start + off) % 2 ^ 64 + room) % 2 ^ 64 ∧
      ((start + off) % 2 ^ 64 + room) % 2 ^ 64 + size ≤ start + length) ↔
      off + room + size < 2 ^ 64 := by
  omega

/-- The `memset` of a block that has not wrapped stays in the address space. -/
theorem not_fault {start length off room size : Nat} (hoff : off ≤ 64) (hroom : room ≤ 64)
    (hlength : length = (off + (room + size) % 2 ^ 64) % 2 ^ 64) (hstop : start + length ≤ 2 ^ 47)
    (hwrap : off + room + size < 2 ^ 64) :
    (start + off) % 2 ^ 64 + (room + size) % 2 ^ 64 ≤ 2 ^ 47 := by
  omega

/-- An allocation as it is made for a request with a reply. -/
structure Made (build : Build) (w : Wanted) (reply : Reply) (l : Live) : Prop where
  block : l.memory.block =
    { pointer := { allocator := allocatorFor w.poolFlags, start := reply.start }
      length := w.fullSize build }
  pointer : l.memory.pointer = reply.start + build.pointerOffset (allocatorFor w.poolFlags)
  exFlags : ∀ f, l.exHeader = some f → f = l.poolFlags
  poolFlags : l.poolFlags = w.poolFlags
  room : l.room = w.room
  size : l.size = w.size

/-- The parts of the block of an allocation that has not wrapped. -/
structure LiveOk (build : Build) (l : Live) : Prop where
  kind : l.memory.block.pointer.allocator = allocatorFor l.poolFlags
  pointer : l.memory.pointer.toNat = l.memory.block.pointer.start.toNat +
    (build.pointerOffset (allocatorFor l.poolFlags)).toNat
  length : l.memory.block.length.toNat =
    (build.pointerOffset (allocatorFor l.poolFlags)).toNat + l.room.toNat + l.size.toNat
  stop : l.memory.block.pointer.start.toNat + l.memory.block.length.toNat ≤ addressSpaceEnd
  exFlags : ∀ f, l.exHeader = some f → f = l.poolFlags

variable {build : Build} {heap others : List Live} {w : Wanted} {reply : Reply} {l : Live}

theorem fits_spec (h : w.fits build reply others = true) :
    reply.start.toNat + (w.fullSize build).toNat ≤ addressSpaceEnd ∧
      (w.poolFlags &&& cacheAligned = 0 ∨ reply.start.toNat % cacheLineSize = 0) ∧
      ∀ c ∈ others, reply.start.toNat + (w.fullSize build).toNat ≤
          c.memory.block.pointer.start.toNat ∨
        c.memory.block.pointer.start.toNat + c.memory.block.length.toNat ≤ reply.start.toNat := by
  simpa [Wanted.fits, and_assoc] using h

theorem fullSize_toNat (build : Build) (w : Wanted) : (w.fullSize build).toNat =
    ((build.pointerOffset (allocatorFor w.poolFlags)).toNat +
      (w.room.toNat + w.size.toNat) % 2 ^ 64) % 2 ^ 64 := by
  rw [Wanted.fullSize, BitVec.toNat_add, BitVec.toNat_add]

theorem Made.pointer_toNat (hm : Made build w reply l) : l.pointer.toNat =
    ((reply.start.toNat + (build.pointerOffset (allocatorFor w.poolFlags)).toNat) % 2 ^ 64 +
      w.room.toNat) % 2 ^ 64 := by
  rw [Live.pointer, hm.pointer, hm.room, BitVec.toNat_add, BitVec.toNat_add]

theorem Made.room_le (hm : Made build w reply l) : w.room.toNat ≤ 64 :=
  hm.room ▸ Ex.room_le l

/-- What is handed out lies in the block if and only if nothing has wrapped. -/
theorem Made.inside_iff (hm : Made build w reply l)
    (hfits : reply.start.toNat + (w.fullSize build).toNat ≤ addressSpaceEnd) :
    (l.memory.block.pointer.start.toNat ≤ l.pointer.toNat ∧
      l.pointer.toNat + l.size.toNat ≤
        l.memory.block.pointer.start.toNat + l.memory.block.length.toNat) ↔
      w.offset build + w.size.toNat < 2 ^ 64 := by
  rw [hm.block, hm.pointer_toNat, hm.size]
  exact Ex.inside_iff (pointerOffset_le _ _) hm.room_le w.size.isLt (fullSize_toNat build w) hfits

theorem Made.liveOk (hm : Made build w reply l)
    (hfits : reply.start.toNat + (w.fullSize build).toNat ≤ addressSpaceEnd)
    (hwrap : w.offset build + w.size.toNat < 2 ^ 64) : LiveOk build l := by
  have hoff := pointerOffset_le build (allocatorFor w.poolFlags)
  have hlength := fullSize_toNat build w
  unfold Wanted.offset at hwrap
  unfold addressSpaceEnd at hfits
  refine ⟨?_, ?_, ?_, ?_, hm.exFlags⟩
  · rw [hm.block, hm.poolFlags]
  · rw [hm.block, hm.poolFlags, hm.pointer, BitVec.toNat_add]
    dsimp only
    omega
  · rw [hm.block, hm.poolFlags, hm.room, hm.size]
    dsimp only
    omega
  · rw [hm.block]
    exact hfits

theorem LiveOk.pointer_toNat (hl : LiveOk build l) :
    l.pointer.toNat = l.memory.pointer.toNat + l.room.toNat := by
  have hpointer := hl.pointer
  have hlength := hl.length
  have hstop := hl.stop
  unfold addressSpaceEnd at hstop
  rw [Live.pointer, BitVec.toNat_add]
  omega

/-- The headers lie between the start of the block and what is handed out. -/
theorem LiveOk.headers_le (hl : LiveOk build l) {h : Nat × Nat} (hh : h ∈ l.headers build) :
    l.memory.block.pointer.start.toNat ≤ h.1 ∧ h.2 ≤ l.pointer.toNat := by
  have hpointer := hl.pointer
  rw [hl.pointer_toNat]
  rcases List.mem_append.mp hh with hh | hh
  · cases build with
    | release => cases hh
    | debug =>
      obtain rfl := List.mem_singleton.mp hh
      have hoff : headerLength ≤ (Build.debug.pointerOffset (allocatorFor l.poolFlags)).toNat := by
        cases allocatorFor l.poolFlags <;> decide
      dsimp only
      omega
  · cases hex : l.exHeader with
    | none =>
      rw [hex] at hh
      cases hh
    | some f =>
      rw [hex] at hh
      obtain rfl := List.mem_singleton.mp hh
      have hroom' : l.room = headerSize := by rw [Live.room, hex]
      dsimp only
      rw [hroom']
      omega

theorem LiveOk.pointer_le (hl : LiveOk build l) :
    l.memory.block.pointer.start.toNat ≤ l.pointer.toNat ∧ l.pointer.toNat + l.size.toNat =
      l.memory.block.pointer.start.toNat + l.memory.block.length.toNat := by
  have hpointer := hl.pointer
  have hlength := hl.length
  rw [hl.pointer_toNat]
  omega

/-- What `free` or `realloc` is given is the block the allocation is in. -/
theorem LiveOk.memoryBlockFrom_eq (hl : LiveOk build l) :
    memoryBlockFrom build l.poolFlags l.memory.pointer = l.memory.block.pointer := by
  have hstart : l.memory.pointer - build.pointerOffset (allocatorFor l.poolFlags) =
      l.memory.block.pointer.start := by
    have hpointer : l.memory.pointer = l.memory.block.pointer.start +
        build.pointerOffset (allocatorFor l.poolFlags) := by
      apply BitVec.eq_of_toNat_eq
      rw [BitVec.toNat_add, ← hl.pointer, Nat.mod_eq_of_lt l.memory.pointer.isLt]
    rw [hpointer]
    exact BitVec.add_sub_cancel _ _
  unfold memoryBlockFrom
  dsimp only
  rw [hstart, ← hl.kind]

theorem Made.placed (hm : Made build w reply l) (hfits : w.fits build reply others = true)
    (hwrap : w.offset build + w.size.toNat < 2 ^ 64) (hothers : ∀ c ∈ others, LiveOk build c) :
    Placed build l others := by
  obtain ⟨hstop, haligned, hapart⟩ := fits_spec hfits
  have hl := hm.liveOk hstop hwrap
  obtain ⟨hfirst, hlast⟩ := hl.pointer_le
  have hblock : l.memory.block.pointer.start.toNat = reply.start.toNat ∧
      l.memory.block.length.toNat = (w.fullSize build).toNat := by
    rw [hm.block]
    exact ⟨rfl, rfl⟩
  refine ⟨hfirst, by omega, fun hflag => ?_, ?_, ?_⟩
  · have hkind : allocatorFor l.poolFlags = .aligned := if_pos hflag
    have hoff : (build.pointerOffset (allocatorFor l.poolFlags)).toNat = cacheLineSize := by
      rw [hkind]
      rfl
    have hroom : l.room.toNat % cacheLineSize = 0 := by
      unfold Live.room
      split <;> rfl
    have hstart := haligned.resolve_left (hm.poolFlags ▸ hflag)
    have hlength := hl.length
    unfold cacheLineSize at *
    omega
  · intro c hc h hh
    rcases List.mem_cons.mp hc with rfl | hc
    · exact .inl (hl.headers_le hh).2
    · have hc' := hothers c hc
      have hin := hc'.headers_le hh
      have hin' := hc'.pointer_le
      rcases hapart c hc with hbefore | hbehind
      · omega
      · omega
  · intro c hc h hh
    have hc' := hothers c hc
    have hin := hl.headers_le hh
    have hin' := hc'.pointer_le
    rcases hapart c hc with hbefore | hbehind
    · omega
    · omega

/-! ## How the calls end -/

/-- A call is answered with a block of its own, or does not get as far. -/
inductive Attempt (build : Build) (env : Environment) (w : Wanted) (put : Live → Effect) :
    Bool → Outcome Effect → Prop where
  | null : Attempt build env w put false .null
  | stopped {reason : Stop} (hfault : reason ≠ .accessViolation)
      (hcorruption : reason ≠ .heapCorruption) : Attempt build env w put false (.stopped reason)
  | fault {reply : Reply} (hreply : env.reply = some reply)
      (hend : addressSpaceEnd <
        (reply.start + build.pointerOffset (allocatorFor w.poolFlags)).toNat +
          (w.room + w.size).toNat) :
      Attempt build env w put true (.stopped .accessViolation)
  | block {reply : Reply} {l : Live} (hreply : env.reply = some reply)
      (hmade : Made build w reply l) : Attempt build env w put true (.returned (put l))

theorem made_cxplat (build : Build) (poolFlags : PoolFlags) (size : SizeT) (reply : Reply)
    (header : Option Header) (bytes : Bytes) :
    Made build ⟨poolFlags, 0, size⟩ reply
      { memory := { reply.allocation build poolFlags
          (build.pointerOffset (allocatorFor poolFlags) + size) header with bytes := bytes }
        exHeader := none, poolFlags := poolFlags, size := size } where
  block := by simp [Reply.allocation, Wanted.fullSize]
  pointer := rfl
  exFlags := fun _ hf => by cases hf
  poolFlags := rfl
  room := rfl
  size := rfl

theorem made_ex (build : Build) (poolFlags : PoolFlags) (size : SizeT) (reply : Reply)
    (header : Option Header) (bytes : Bytes) :
    Made build ⟨poolFlags, headerSize, size⟩ reply
      { memory := { reply.allocation build poolFlags
          (build.pointerOffset (allocatorFor poolFlags) + (headerSize + size)) header with
          bytes := bytes }
        exHeader := some poolFlags, poolFlags := poolFlags, size := size } where
  block := rfl
  pointer := rfl
  exFlags := fun _ hf => (Option.some.inj hf).symm
  poolFlags := rfl
  room := rfl
  size := rfl

/-- A request of `cxplat_allocate` or `cxplat_reallocate`, and what is made of the block. -/
theorem attempt_of_requested {env : Environment} {size : SizeT} {gets : Bool}
    {o : Outcome Allocation} {f : Allocation → Effect} {put : Live → Effect}
    (h : Requested build env w.poolFlags size gets o) (hsize : size = w.room + w.size)
    (hput : ∀ reply header bytes, ∃ l, Made build w reply l ∧
      f { reply.allocation build w.poolFlags
          (build.pointerOffset (allocatorFor w.poolFlags) + size) header with bytes := bytes } =
        put l) :
    Attempt build env w put gets (o.map f) := by
  cases h with
  | null => exact .null
  | assertion => exact .stopped (by decide) (by decide)
  | fault hreply hend => exact .fault hreply (hsize ▸ hend)
  | @block reply hreply header bytes =>
    obtain ⟨l, hmade, heq⟩ := hput reply header bytes
    show Attempt build env w put true (.returned (f _))
    rw [heq]
    exact .block hreply hmade

theorem attempt_cxplatAllocate (build : Build) (env : Environment) (poolFlags : PoolFlags)
    (size : SizeT) (tag : BitVec 32) :
    Attempt build env ⟨poolFlags, 0, size⟩ .allocated (asks build env size)
      ((cxplatAllocate build env poolFlags size tag).map (ofCxplat poolFlags size)) :=
  attempt_of_requested (w := ⟨poolFlags, 0, size⟩)
    (requested_cxplatAllocate build env poolFlags size tag) (BitVec.zero_add size).symm
    fun reply header bytes => ⟨_, made_cxplat build poolFlags size reply header bytes, rfl⟩

theorem attempt_allocateWithHeader (build : Build) (env : Environment) (poolFlags : PoolFlags)
    (size : SizeT) (tag : BitVec 32) :
    Attempt build env ⟨poolFlags, headerSize, size⟩ .allocated
      (asks build env (headerSize + size))
      ((allocateWithHeader build env poolFlags size tag).map (ofEx size)) := by
  have hmap : (allocateWithHeader build env poolFlags size tag).map (ofEx size) =
      (cxplatAllocate build env poolFlags (headerSize + size) tag).map fun memory =>
        ofEx size { memory := memory, poolFlags := poolFlags } := by
    unfold allocateWithHeader
    cases cxplatAllocate build env poolFlags (headerSize + size) tag <;> rfl
  rw [hmap]
  exact attempt_of_requested (w := ⟨poolFlags, headerSize, size⟩)
    (requested_cxplatAllocate build env poolFlags (headerSize + size) tag) rfl
    fun reply header bytes => ⟨_, made_ex build poolFlags size reply header bytes, rfl⟩

theorem attempt_cxplatReallocate (env : Environment) {poolFlags : PoolFlags} {i : Nat}
    (hl : LiveOk build l) (hflags : l.poolFlags = poolFlags) (hex : l.exHeader = none)
    (oldSize newSize : SizeT) (tag : BitVec 32) :
    Attempt build env ⟨poolFlags, 0, newSize⟩ (.moved i)
      (asksAgain build env l.memory poolFlags oldSize newSize tag)
      ((cxplatReallocate build env l.memory poolFlags oldSize newSize tag).map fun memory =>
        .moved i { l with memory := memory, size := newSize }) := by
  subst hflags
  refine attempt_of_requested (w := ⟨l.poolFlags, 0, newSize⟩)
    (requested_cxplatReallocate env oldSize newSize tag hl.memoryBlockFrom_eq)
    (BitVec.zero_add newSize).symm fun reply header bytes => ⟨_, ?_, rfl⟩
  have hmade := made_cxplat build l.poolFlags newSize reply header bytes
  rwa [← hex] at hmade

/-- What a call that got a block puts into the list of all allocations. -/
inductive Puts (heap : List Live) : List Live → (Live → Effect) → Prop where
  | allocated : Puts heap heap .allocated
  | moved (i : Nat) : Puts heap (heap.eraseIdx i) (.moved i)

/-- A call that wants no block frees the right one, or stops. -/
inductive Release (heap : List Live) : Outcome Effect → Prop where
  | stopped {reason : Stop} (hfault : reason ≠ .accessViolation)
      (hcorruption : reason ≠ .heapCorruption) : Release heap (.stopped reason)
  | freed {i : Nat} {l : Live} (hi : heap[i]? = some l) :
      Release heap (.returned (.freed i l.memory.block.pointer))

def HeapOk (build : Build) (heap : List Live) : Prop := ∀ l ∈ heap, LiveOk build l

theorem attempt_ok_iff {env : Environment} {put : Live → Effect} {gets : Bool}
    {o : Outcome Effect} (h : Attempt build env w put gets o)
    (hput : Puts heap others put) (hothers : HeapOk build others)
    (hserved : ∀ reply, env.reply = some reply → w.fits build reply others = true)
    (hroom : w.room.toNat ≤ 64) :
    OutcomeOk build heap o ↔ (gets = true → w.offset build + w.size.toNat < 2 ^ 64) := by
  cases h with
  | null => exact iff_of_true trivial fun h => by cases h
  | stopped hfault hcorruption =>
    exact iff_of_true ⟨hfault, hcorruption⟩ fun h => by cases h
  | fault hreply hend =>
    refine iff_of_false (fun h => h.1 rfl) fun h => ?_
    have hstop := (fits_spec (hserved _ hreply)).1
    have hfits := not_fault (pointerOffset_le _ _) hroom (fullSize_toNat build w) hstop (h rfl)
    rw [BitVec.toNat_add, BitVec.toNat_add] at hend
    unfold addressSpaceEnd at hend
    omega
  | @block reply l hreply hmade =>
    have hplaced : OutcomeOk build heap (.returned (put l)) ↔ Placed build l others := by
      cases hput with
      | allocated | moved i => exact Iff.rfl
    rw [hplaced]
    have hfits := hserved _ hreply
    constructor
    · exact fun hp _ => (hmade.inside_iff (fits_spec hfits).1).mp ⟨hp.first, hp.last⟩
    · exact fun h => hmade.placed hfits (h rfl) hothers

theorem release_cxplatFree {i : Nat} {poolFlags : PoolFlags} (tag : BitVec 32)
    (hi : heap[i]? = some l)
    (hl : LiveOk build l) (hflags : poolFlags = l.poolFlags) :
    Release heap ((cxplatFree build l.memory poolFlags tag).map (.freed i)) := by
  subst hflags
  unfold Winuser.cxplatFree
  split
  · rw [hl.memoryBlockFrom_eq]
    exact .freed hi
  · exact .stopped (by decide) (by decide)

theorem attempt_exAllocatePool2 (build : Build) (env : Environment) (irql : Nat)
    (poolFlags : ExPoolFlags) {size : SizeT} (hsize : size ≠ 0) (tag : BitVec 32) :
    Attempt build env ⟨poolFlags.setWidth 32, headerSize, size⟩ .allocated
      (tag ≠ 0 && !irqlTooHigh build irql (poolFlags.setWidth 32) &&
        asks build env (headerSize + size))
      ((exAllocatePool2 build env irql poolFlags size tag).map (ofEx size)) := by
  unfold exAllocatePool2
  by_cases htag : tag = 0
  · subst htag
    exact .stopped (by simp) (by simp)
  · rw [decide_eq_true htag, decide_eq_false htag, decide_eq_false hsize]
    cases irqlTooHigh build irql (poolFlags.setWidth 32) with
    | true => exact .stopped (by simp) (by simp)
    | false => exact attempt_allocateWithHeader build env (poolFlags.setWidth 32) size tag

/-- The call asks for a block as its arguments say. -/
theorem run_attempt {a : Action} {o : Outcome Effect} (hheap : HeapOk build heap)
    (hrun : run build heap a = some o) :
    (∃ w put, a.call.wanted = some w ∧ w.room.toNat ≤ 64 ∧
      Attempt build a.env w put (a.getsBlock build heap) o ∧ Puts heap (a.call.others heap) put) ∨
    a.getsBlock build heap = false ∧ Release heap o := by
  obtain ⟨env, call⟩ := a
  cases call with
  | cxplatAllocate poolFlags size tag =>
    simp only [run, Option.ite_none_left_eq_some, Option.some.injEq] at hrun
    obtain ⟨-, rfl⟩ := hrun
    exact .inl ⟨_, _, rfl, Nat.zero_le _, attempt_cxplatAllocate build env poolFlags size tag,
      .allocated⟩
  | cxplatReallocate i poolFlags oldSize newSize tag =>
    simp only [run, Option.bind_eq_some_iff, Option.ite_none_left_eq_some, Option.some.injEq,
      Bool.or_eq_true, decide_eq_true_eq, not_or, Bool.not_eq_true, Option.isSome_eq_false_iff,
      Option.isNone_iff_eq_none, ne_eq, not_not] at hrun
    obtain ⟨l, hl, ⟨⟨-, hex⟩, hflags⟩, rfl⟩ := hrun
    have hattempt := attempt_cxplatReallocate env (i := i)
      (hheap l (List.mem_of_getElem? hl)) hflags hex oldSize newSize tag
    refine .inl ⟨_, .moved i, rfl, Nat.zero_le _, ?_, .moved i⟩
    simpa [Action.getsBlock, hl] using hattempt
  | cxplatFree i poolFlags tag =>
    simp only [run, Option.bind_eq_some_iff, Option.ite_none_left_eq_some, Option.some.injEq,
      Bool.or_eq_true, decide_eq_true_eq, not_or, ne_eq, not_not] at hrun
    obtain ⟨l, hl, ⟨-, hflags⟩, rfl⟩ := hrun
    exact .inr ⟨rfl, release_cxplatFree tag hl (hheap l (List.mem_of_getElem? hl)) hflags.symm⟩
  | exAllocatePoolUninitialized poolType numberOfBytes tag =>
    simp only [run, Option.ite_none_left_eq_some, Option.some.injEq] at hrun
    obtain ⟨-, rfl⟩ := hrun
    unfold exAllocatePoolUninitialized
    by_cases htag : tag = 0
    · subst htag
      exact .inr ⟨rfl, .stopped (by simp) (by simp)⟩
    · rw [if_neg htag]
      cases hflags : poolTypeToFlags poolType false with
      | none => exact .inr ⟨by simp [Action.getsBlock, hflags], .stopped (by simp) (by simp)⟩
      | some poolFlags =>
        refine .inl ⟨⟨poolFlags, headerSize, numberOfBytes⟩, .allocated, ?_, Nat.le_refl 64, ?_,
          .allocated⟩
        · simp [Call.wanted, hflags]
        · simp only [Action.getsBlock, decide_eq_true htag, hflags, Option.isSome_some,
            Bool.true_and]
          exact attempt_allocateWithHeader build env poolFlags numberOfBytes tag
  | exAllocatePool2 irql poolFlags numberOfBytes tag =>
    simp only [run, Option.ite_none_left_eq_some, Option.some.injEq] at hrun
    obtain ⟨hsize, rfl⟩ := hrun
    exact .inl ⟨_, _, rfl, Nat.le_refl 64,
      attempt_exAllocatePool2 build env irql poolFlags hsize tag, .allocated⟩
  | exAllocatePoolWithTag irql poolType numberOfBytes tag =>
    simp only [run, Option.ite_none_left_eq_some, Option.some.injEq] at hrun
    obtain ⟨hsize, rfl⟩ := hrun
    unfold exAllocatePoolWithTag
    cases hflags : poolTypeToFlags poolType true with
    | none => exact .inr ⟨by simp [Action.getsBlock, hflags], .stopped (by simp) (by simp)⟩
    | some poolFlags =>
      have hwidth : (poolFlags.setWidth 64).setWidth 32 = poolFlags := by simp
      have hattempt := attempt_exAllocatePool2 build env irql (poolFlags.setWidth 64) hsize tag
      rw [hwidth] at hattempt
      refine .inl ⟨⟨poolFlags, headerSize, numberOfBytes⟩, .allocated, ?_, Nat.le_refl 64, ?_,
        .allocated⟩
      · simp [Call.wanted, hflags]
      · simpa [Action.getsBlock, hflags, Bool.and_assoc] using hattempt
  | exFreePool i =>
    simp only [run, Option.bind_eq_some_iff, Option.map_eq_some_iff] at hrun
    obtain ⟨l, hl, f, hf, rfl⟩ := hrun
    have hok := hheap l (List.mem_of_getElem? hl)
    exact .inr ⟨rfl, release_cxplatFree 0 hl hok (hok.exFlags f hf)⟩
  | exFreePoolWithTag i tag =>
    simp only [run, Option.bind_eq_some_iff, Option.map_eq_some_iff] at hrun
    obtain ⟨l, hl, f, hf, rfl⟩ := hrun
    have hok := hheap l (List.mem_of_getElem? hl)
    exact .inr ⟨rfl, release_cxplatFree tag hl hok (hok.exFlags f hf)⟩

/-! ## Sequences of calls -/

theorem HeapOk.of_others (hheap : HeapOk build heap) (c : Call) : HeapOk build (c.others heap) := by
  intro l hl
  cases c with
  | cxplatReallocate i | cxplatFree i | exFreePool i | exFreePoolWithTag i =>
    exact hheap l (List.mem_of_mem_eraseIdx hl)
  | cxplatAllocate | exAllocatePoolUninitialized | exAllocatePool2 | exAllocatePoolWithTag =>
    exact hheap l hl

theorem served_spec {a : Action} (h : a.served build heap = true) (hw : a.call.wanted = some w) :
    ∀ reply, a.env.reply = some reply → w.fits build reply (a.call.others heap) = true := by
  intro reply hreply
  simpa [Action.served, hw, hreply] using h

theorem noWrap_iff {a : Action} (hw : a.call.wanted = some w) : NoWrap build heap a ↔
    (a.getsBlock build heap = true → w.offset build + w.size.toNat < 2 ^ 64) := by
  simp [NoWrap, hw]

theorem Release.ok {o : Outcome Effect} (h : Release heap o) : OutcomeOk build heap o := by
  cases h with
  | stopped hfault hcorruption => exact ⟨hfault, hcorruption⟩
  | @freed i l hi =>
    show (heap[i]?).map _ = some _
    rw [hi]
    rfl

theorem placedOk_iff_noWrap {a : Action} (hheap : HeapOk build heap)
    (ha : Admissible build heap a) : PlacedOk build heap a ↔ NoWrap build heap a := by
  obtain ⟨o, ho⟩ := Option.isSome_iff_exists.mp ha.1
  have hplaced : PlacedOk build heap a ↔ OutcomeOk build heap o := by
    refine ⟨fun h => h o ho, fun h o' ho' => ?_⟩
    obtain rfl : o = o' := Option.some.inj (ho.symm.trans ho')
    exact h
  rw [hplaced]
  rcases run_attempt hheap ho with ⟨w, put, hw, hroom, hattempt, hput⟩ | ⟨hgets, hrelease⟩
  · rw [noWrap_iff hw]
    exact attempt_ok_iff hattempt hput (hheap.of_others a.call) (served_spec ha.2 hw) hroom
  · refine iff_of_true hrelease.ok fun h => ?_
    rw [hgets] at h
    cases h

/-- A call whose request has not wrapped leaves allocations of the right shape. -/
theorem heapOk_step {a : Action} {heap' : List Live} (hheap : HeapOk build heap)
    (hwrap : NoWrap build heap a) (h : step build heap a = some heap') : HeapOk build heap' := by
  simp only [step, Option.ite_none_right_eq_some] at h
  obtain ⟨hserved, h⟩ := h
  cases ho : run build heap a with
  | none =>
    rw [ho] at h
    cases h
  | some o =>
    rw [ho] at h
    rcases run_attempt hheap ho with ⟨w, put, hw, hroom, hattempt, hput⟩ | ⟨-, hrelease⟩
    · have hothers := hheap.of_others a.call
      have hfits := served_spec hserved hw
      have hnull : HeapOk build (if a.freesOld build heap then a.call.others heap else heap) := by
        split
        · exact hothers
        · exact hheap
      rw [noWrap_iff hw] at hwrap
      generalize a.getsBlock build heap = gets at hattempt hwrap
      generalize a.call.others heap = others at hothers hfits hput
      cases hattempt with
      | null =>
        cases h
        exact hnull
      | stopped | fault => cases h
      | @block reply l hreply hmade =>
        have hl := hmade.liveOk (fits_spec (hfits reply hreply)).1 (hwrap rfl)
        cases hput with
        | allocated | moved i =>
          cases h
          exact List.forall_mem_cons.mpr ⟨hl, hothers⟩
    · cases hrelease with
      | stopped => cases h
      | freed hi =>
        cases h
        exact fun l hl => hheap l (List.mem_of_mem_eraseIdx hl)

/--
Every sequence of calls that can be made, in both builds and with allocators that keep their
promise: every call returns null or something well placed and every free passes the right block to
the right allocator, if and only if no request for a block wraps.
-/
theorem placed_iff_noWrap (build : Build) (calls : List Action)
    (hcalls : Guarded (step build) (Admissible build) [] calls) :
    Guarded (step build) (PlacedOk build) [] calls ↔
      Guarded (step build) (NoWrap build) [] calls :=
  guarded_iff_of_contract (P := HeapOk build) (fun _ _ hheap ha => placedOk_iff_noWrap hheap ha)
    (fun _ _ _ hheap _ hwrap h => heapOk_step hheap hwrap h) (fun _ hl => by cases hl) hcalls

/-- The system has a block at `start`. -/
def blockAt (start : Pointer) : Environment :=
  { memoryLimit := BitVec.allOnes 64, injectFault := false,
    reply := some { start := start, bytes := fun _ => 0 } }

/-- So many bytes are allocated on a cache line, and freed. -/
def allocatedAndFreed (size : SizeT) : List Action :=
  [{ env := blockAt 0x10000,
     call := .exAllocatePoolUninitialized nonPagedPoolNxCacheAligned size 1 },
   { env := blockAt 0x10000, call := .exFreePool 0 }]

theorem placed_iff_noWrap_allocatedAndFreed :
    Guarded (step .debug) (PlacedOk .debug) [] (allocatedAndFreed 100) :=
  (placed_iff_noWrap .debug (allocatedAndFreed 100) (guarded_of_check (by decide))).mpr
    (guarded_of_check (by decide))

/-- All of the address space is asked for. -/
def allocateAll : Action :=
  { env := blockAt 0x10000
    call := .exAllocatePoolUninitialized nonPagedPoolNx (BitVec.allOnes 64) 1 }

/-- Of `2 ^ 64 - 1` bytes, 63 are asked for, and a pointer behind them is returned. -/
theorem wrapped_request_too_small :
    (exAllocatePoolUninitialized .release (blockAt 0x10000) nonPagedPoolNx
      (BitVec.allOnes 64) 1).map
        (fun a => (a.memory.block.length, a.pointer)) = .returned (63, 0x10040) ∧
    Admissible .release [] allocateAll ∧ ¬ PlacedOk .release [] allocateAll := by
  refine ⟨rfl, by decide, fun h => ?_⟩
  have hplaced := h _ rfl
  have hlast : _ + _ ≤ _ + _ := hplaced.last
  exact absurd hlast (by decide)

end Usersim.Ex
